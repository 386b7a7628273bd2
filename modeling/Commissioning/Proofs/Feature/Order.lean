import Commissioning.Proofs.Feature.Area
import Commissioning.Proofs.Feature.Owners
import Commissioning.Proofs.Sequence

set_option autoImplicit false

/-! # The order of calls

An area takes its views from the calls that build it, those of each role in their order
(`FeatureArea.build_eq`), and nothing is checked before all of them have been made. So the same
calls in another order build an area that is as valid and declares the same views. Areas that are
valid and have names of their own are registered in any order, and what a registry then says of a
name, or of a view that only one of them declares, is the same (`order_of_calls`). -/

namespace Commissioning

namespace FeatureArea

/-! ## Building an area -/

/-- The calls that add a view in a role, in their order. -/
def callsOf (role : Role) (calls : List (Role × String)) : List (Role × String) :=
  calls.filter fun call => call.1 = role

/-- The views that calls add in a role. -/
def viewsOf (role : Role) (calls : List (Role × String)) : List String :=
  (callsOf role calls).map Prod.snd

theorem foldl_add (a : FeatureArea) (calls : List (Role × String)) :
    calls.foldl (fun a call => a.add call.1 call.2) a
      = { name := a.name
          declarations := a.declarations ++ viewsOf .declaration calls
          entryViews := a.entryViews ++ viewsOf .entry calls
          exports := a.exports ++ viewsOf .exported calls } := by
  induction calls generalizing a with
  | nil => simp [viewsOf, callsOf]
  | cons call calls ih =>
    obtain ⟨role, view⟩ := call
    rw [List.foldl_cons, ih]
    cases role <;> simp [add, declare, entry, exporting, viewsOf, callsOf]

theorem build_eq (name : String) (calls : List (Role × String)) :
    build name calls
      = { name := name
          declarations := viewsOf .declaration calls
          entryViews := viewsOf .entry calls
          exports := viewsOf .exported calls } := by
  rw [build, foldl_add]
  simp

/-- Whether an area has the name and the views of another one, in whatever order. -/
structure Rearranges (a b : FeatureArea) : Prop where
  name : a.name = b.name
  declarations : a.declarations.Perm b.declarations
  entryViews : a.entryViews.Perm b.entryViews
  exports : a.exports.Perm b.exports

variable {a b : FeatureArea}

theorem Rearranges.symm (h : a.Rearranges b) : b.Rearranges a :=
  ⟨h.name.symm, h.declarations.symm, h.entryViews.symm, h.exports.symm⟩

theorem Rearranges.wellFormed (h : a.Rearranges b) (ha : a.WellFormed) : b.WellFormed := by
  obtain ⟨hname, hnodup, hentries, hexports⟩ := ha
  refine ⟨?_, h.declarations.nodup_iff.mp hnodup, fun view hview => ?_, fun view hview => ?_⟩
  · unfold HasName at hname ⊢
    rwa [← h.name]
  · exact h.declarations.mem_iff.mp (hentries view (h.entryViews.mem_iff.mpr hview))
  · exact h.declarations.mem_iff.mp (hexports view (h.exports.mem_iff.mpr hview))

theorem Rearranges.validate_iff (h : a.Rearranges b) :
    a.validate = .ok () ↔ b.validate = .ok () := by
  rw [validate_eq_ok_iff, validate_eq_ok_iff]
  exact ⟨h.wellFormed, h.symm.wellFormed⟩

theorem Rearranges.declares_eq (h : a.Rearranges b) (view : String) :
    a.declares view = b.declares view := by
  rw [Bool.eq_iff_iff, declares_eq_true_iff, declares_eq_true_iff]
  exact h.declarations.mem_iff

theorem rearranges_build (name : String) {calls calls' : List (Role × String)}
    (h : calls.Perm calls') : (build name calls).Rearranges (build name calls') := by
  have hviews : ∀ role, (viewsOf role calls).Perm (viewsOf role calls') :=
    fun role => (h.filter _).map _
  rw [build_eq, build_eq]
  exact ⟨rfl, hviews .declaration, hviews .entry, hviews .exported⟩

/-- What two areas have in common that are built from the same calls, in orders of their own. -/
structure BuiltAlike (name : String) (calls calls' : List (Role × String)) : Prop where
  validate_iff : (build name calls).validate = .ok () ↔ (build name calls').validate = .ok ()
  declares_eq : ∀ view, (build name calls).declares view = (build name calls').declares view
  /-- They are equal where the calls of each role come in one order. -/
  eq_of_callsOf : (∀ role, callsOf role calls = callsOf role calls') →
    build name calls = build name calls'

theorem builtAlike (name : String) {calls calls' : List (Role × String)} (h : calls.Perm calls') :
    BuiltAlike name calls calls' where
  validate_iff := (rearranges_build name h).validate_iff
  declares_eq := (rearranges_build name h).declares_eq
  eq_of_callsOf hroles := by
    rw [build_eq, build_eq]
    simp only [viewsOf, hroles]

end FeatureArea

namespace FeatureRegistry

/-! ## Registering areas -/

variable {r r' : FeatureRegistry} {areas areas' : List FeatureArea} {view : String}

/-- The registry after several registrations, or why one of them is refused. -/
def registerAll (r : FeatureRegistry) (areas : List FeatureArea) :
    Except FeatureArea.Fault FeatureRegistry :=
  areas.foldlM register r

theorem register_of_takes {a : FeatureArea} (h : r.Takes a) :
    r.register a = .ok ⟨r.areas ++ [a]⟩ := by
  obtain ⟨next, hnext⟩ := exists_register_eq_ok_iff.mpr h
  rw [hnext, ← areas_of_register hnext]

/-- Valid areas with names of their own are all taken, one behind the other. -/
theorem registerAll_eq_ok (hvalid : ∀ a ∈ areas, a.validate = .ok ())
    (hnames : ((r.areas ++ areas).map (·.name)).Nodup) :
    r.registerAll areas = .ok ⟨r.areas ++ areas⟩ := by
  induction areas generalizing r with
  | nil =>
    rw [List.append_nil]
    rfl
  | cons a areas ih =>
    have htakes : r.Takes a := by
      refine ⟨hvalid a List.mem_cons_self, fun b hb hname => ?_⟩
      rw [List.map_append, List.nodup_append] at hnames
      exact hnames.2.2 b.name (List.mem_map_of_mem hb) a.name (by simp) hname
    have hrest : registerAll ⟨r.areas ++ [a]⟩ areas = .ok ⟨r.areas ++ [a] ++ areas⟩ := by
      refine ih (fun b hb => hvalid b (List.mem_cons_of_mem a hb)) ?_
      rwa [List.append_assoc, List.singleton_append]
    have hfirst : r.registerAll (a :: areas) = registerAll ⟨r.areas ++ [a]⟩ areas := by
      rw [registerAll, List.foldlM_cons, register_of_takes htakes, ok_bind, registerAll]
    rw [hfirst, hrest, List.append_assoc, List.singleton_append]

/-! ## Asking a registry -/

/-- Whether at most one of several areas declares a view. -/
def DeclaredOnce (view : String) (areas : List FeatureArea) : Prop :=
  ∀ a ∈ areas, ∀ b ∈ areas, view ∈ a.declarations → view ∈ b.declarations → a = b

theorem Tidy.area?_perm (h : r.Tidy) (h' : r'.Tidy) (hperm : r.areas.Perm r'.areas)
    (name : String) : r.area? name = r'.area? name := by
  ext a
  rw [h.area?_eq_some_iff, h'.area?_eq_some_iff, hperm.mem_iff]

theorem DeclaredOnce.ownerOf?_perm (h : DeclaredOnce view r.areas)
    (hperm : r.areas.Perm r'.areas) : r.ownerOf? view = r'.ownerOf? view := by
  cases howner : r.ownerOf? view with
  | none =>
    rw [ownerOf?_eq_none_iff] at howner
    symm
    exact ownerOf?_eq_none_iff.mpr fun a ha => howner a (hperm.mem_iff.mpr ha)
  | some a =>
    obtain ⟨ha, hview⟩ := mem_of_ownerOf? howner
    have hsole : r.IsSoleOwner a view := ⟨ha, hview, fun b hb hb' => h b hb a ha hb' hview⟩
    exact (hsole.perm hperm.symm).ownerOf?.symm

/-- What two registries have in common that the same areas are registered in, in orders of their
own. -/
structure RegisteredAlike (areas areas' : List FeatureArea) (r r' : FeatureRegistry) : Prop where
  registered : empty.registerAll areas = .ok r
  registered' : empty.registerAll areas' = .ok r'
  area?_eq : ∀ name, r.area? name = r'.area? name
  ownerOf?_eq : ∀ view, DeclaredOnce view areas → r.ownerOf? view = r'.ownerOf? view

theorem registeredAlike (hperm : areas.Perm areas') (hvalid : ∀ a ∈ areas, a.validate = .ok ())
    (hnames : (areas.map (·.name)).Nodup) : RegisteredAlike areas areas' ⟨areas⟩ ⟨areas'⟩ := by
  have hvalid' : ∀ a ∈ areas', a.validate = .ok () :=
    fun a ha => hvalid a (hperm.mem_iff.mpr ha)
  have hnames' : (areas'.map (·.name)).Nodup := (hperm.map _).nodup_iff.mp hnames
  constructor
  case registered => exact registerAll_eq_ok hvalid hnames
  case registered' => exact registerAll_eq_ok hvalid' hnames'
  case area?_eq => exact Tidy.area?_perm ⟨hnames, hvalid⟩ ⟨hnames', hvalid'⟩ hperm
  case ownerOf?_eq => exact fun view hview => hview.ownerOf?_perm hperm

end FeatureRegistry

/-! ## The whole of it -/

/-- **The order of calls does not matter**, neither of those that build an area nor of those that
register valid areas with names of their own. -/
theorem FeatureRegistry.order_of_calls :
    (∀ (name : String) (calls calls' : List (FeatureArea.Role × String)), calls.Perm calls' →
      FeatureArea.BuiltAlike name calls calls') ∧
    ∀ areas areas' : List FeatureArea, areas.Perm areas' →
      (∀ a ∈ areas, a.validate = .ok ()) → (areas.map (·.name)).Nodup →
      ∃ r r', RegisteredAlike areas areas' r r' :=
  ⟨fun name _ _ hperm => FeatureArea.builtAlike name hperm,
    fun _ _ hperm hvalid hnames => ⟨_, _, registeredAlike hperm hvalid hnames⟩⟩

/-! ### A hall that is built from its exports on

The export comes before the declaration that it needs, and the hall is registered behind the yard
that shares its gate. -/

namespace FeatureRegistry

open FeatureArea (build)

def hallCalls : List (FeatureArea.Role × String) :=
  [(.declaration, "gate"), (.declaration, "stairs"), (.exported, "stairs")]

def hallCallsBackward : List (FeatureArea.Role × String) :=
  [(.exported, "stairs"), (.declaration, "stairs"), (.declaration, "gate")]

theorem order_of_calls_hall :
    (build "hall" hallCallsBackward).validate = .ok () ∧
      ∃ r r', RegisteredAlike [build "hall" hallCalls, yardArea]
        [yardArea, build "hall" hallCalls] r r' ∧
        r.ownerOf? "stairs" = r'.ownerOf? "stairs" := by
  have hperm : hallCalls.Perm hallCallsBackward := List.reverse_perm hallCallsBackward
  have hvalid : (build "hall" hallCalls).validate = .ok () := by decide +kernel
  obtain ⟨hbuilt, hregistered⟩ := order_of_calls
  obtain ⟨r, r', halike⟩ := hregistered [build "hall" hallCalls, yardArea] _
    (List.Perm.swap _ _ []) (by decide +kernel) (by decide +kernel)
  refine ⟨(hbuilt "hall" _ _ hperm).validate_iff.mp hvalid, r, r', halike,
    halike.ownerOf?_eq "stairs" ?_⟩
  unfold DeclaredOnce
  decide +kernel

end FeatureRegistry

end Commissioning
