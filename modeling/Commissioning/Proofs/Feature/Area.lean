import Commissioning.Feature.Area
import Commissioning.Proofs.Text.Trim
import Commissioning.Proofs.Wizard.Views

set_option autoImplicit false

/-! # Valid areas

An area is valid when it has a name, declares no view twice and refers to its own views only
(`FeatureArea.validate_eq_ok_iff`). Where several things are wrong with an area, the first one is
named: the name comes before the declarations, those come before the views that are referred to, and
of several views the first one is meant (`FeatureArea.validate_first_fault`). -/

namespace Commissioning.FeatureArea

/-! ## What is asked of an area -/

/-- Whether the name has a character that is not blank. -/
def HasName (a : FeatureArea) : Prop :=
  ∃ char ∈ a.name.toList, Text.isBlank char = false

/-- Whether every view that the area refers to is its own. -/
def RefersToOwn (a : FeatureArea) : Prop :=
  (∀ view ∈ a.entryViews, view ∈ a.declarations) ∧ ∀ view ∈ a.exports, view ∈ a.declarations

/-- Whether an area is fit to be registered. -/
structure WellFormed (a : FeatureArea) : Prop where
  name : a.HasName
  declarations_nodup : a.declarations.Nodup
  references : a.RefersToOwn

/-- Whether a view is the first one that the area refers to without declaring it. The modals come
before the views that others may embed. -/
def IsFirstUndeclared (a : FeatureArea) (view : String) : Prop :=
  ∃ before after, a.entryViews ++ a.exports = before ++ view :: after ∧
    view ∉ a.declarations ∧ ∀ other ∈ before, other ∈ a.declarations

variable {a : FeatureArea} {view : String}

theorem declares_eq_true_iff : a.declares view = true ↔ view ∈ a.declarations := by
  simp [declares]

theorem refersToOwn_iff :
    a.RefersToOwn ↔ ∀ view ∈ a.entryViews ++ a.exports, view ∈ a.declarations := by
  simp only [RefersToOwn, List.mem_append, or_imp, forall_and]

theorem IsFirstUndeclared.not_refersToOwn (h : a.IsFirstUndeclared view) : ¬ a.RefersToOwn := by
  obtain ⟨before, after, hreferences, hview, -⟩ := h
  intro hown
  rw [refersToOwn_iff, hreferences] at hown
  exact hview (hown view (by simp))

/-! ## Validation -/

/-- What validation says of an area. Every check is made after those before it have been passed. -/
inductive Validated (a : FeatureArea) : Except Fault Unit → Prop
  | valid (h : a.WellFormed) : Validated a (.ok ())
  | unnamed (hname : ¬ a.HasName) : Validated a (.error .noName)
  | repeated (view : String) (hname : a.HasName) (hview : IsFirstRepeated view a.declarations) :
      Validated a (.error (.declaredTwice a.name view))
  | undeclared (view : String) (hname : a.HasName) (hnodup : a.declarations.Nodup)
      (hview : a.IsFirstUndeclared view) : Validated a (.error (.undeclared a.name view))

theorem isFirstUndeclared_of_find?
    (h : (a.entryViews ++ a.exports).find? (fun view => !a.declares view) = some view) :
    a.IsFirstUndeclared view := by
  obtain ⟨hview, before, after, hreferences, hbefore⟩ := List.find?_eq_some_iff_append.mp h
  refine ⟨before, after, hreferences, ?_, fun other hother => ?_⟩
  · rw [← declares_eq_true_iff]
    simpa using hview
  · rw [← declares_eq_true_iff]
    simpa using hbefore other hother

theorem refersToOwn_of_find?
    (h : (a.entryViews ++ a.exports).find? (fun view => !a.declares view) = none) :
    a.RefersToOwn := by
  refine refersToOwn_iff.mpr fun view hview => ?_
  rw [← declares_eq_true_iff]
  simpa using List.find?_eq_none.mp h view hview

theorem validate_cases (a : FeatureArea) : Validated a a.validate := by
  unfold validate
  split
  next hblank =>
    refine .unnamed fun hname => ?_
    rw [Text.isBlankText_eq_false_iff.mpr hname] at hblank
    exact Bool.false_ne_true hblank
  next hblank =>
    have hname : a.HasName := Text.isBlankText_eq_false_iff.mp (by simpa using hblank)
    split
    next view hrepeated => exact .repeated view hname (isFirstRepeated_of_firstRepeated? hrepeated)
    next hnone =>
      have hnodup := (firstRepeated?_eq_none_iff.mp hnone).1
      split
      next view hfound => exact .undeclared view hname hnodup (isFirstUndeclared_of_find? hfound)
      next hall => exact .valid ⟨hname, hnodup, refersToOwn_of_find? hall⟩

theorem validate_eq_ok_iff (a : FeatureArea) : a.validate = .ok () ↔ a.WellFormed := by
  have hvalidated := a.validate_cases
  generalize a.validate = outcome at hvalidated
  cases hvalidated with
  | valid h => exact iff_of_true rfl h
  | unnamed hname => exact iff_of_false (by simp) fun h => hname h.name
  | repeated view _ hview =>
    exact iff_of_false (by simp) fun h => hview.not_nodup h.declarations_nodup
  | undeclared view _ _ hview =>
    exact iff_of_false (by simp) fun h => hview.not_refersToOwn h.references

/-- Whether an outcome is that of the first fault of an area, or of none. -/
structure SaysFirstFault (a : FeatureArea) (outcome : Except Fault Unit) : Prop where
  ok_iff : outcome = .ok () ↔ a.WellFormed
  /-- A blank name is named before anything else. -/
  unnamed : ¬ a.HasName → outcome = .error .noName
  /-- Of the declarations the one at the first place is named that is equal to an earlier one. -/
  repeated : a.HasName → ¬ a.declarations.Nodup →
    ∃ (view : String) (j : Nat), outcome = .error (.declaredTwice a.name view) ∧ a.declarations[j]? = some view ∧
      (∃ i < j, a.declarations[i]? = some view) ∧
      ∀ k < j, ∀ i < k, a.declarations[i]? ≠ a.declarations[k]?
  /-- Of the views that are referred to the first one is named that is not declared. -/
  undeclared : a.HasName → a.declarations.Nodup → ¬ a.RefersToOwn →
    ∃ view, outcome = .error (.undeclared a.name view) ∧ a.IsFirstUndeclared view

/-- **Validation accepts the well-formed areas and names the first fault of any other.** -/
theorem validate_first_fault (a : FeatureArea) : SaysFirstFault a a.validate := by
  have hok := a.validate_eq_ok_iff
  have hvalidated := a.validate_cases
  generalize a.validate = outcome at hok hvalidated
  cases hvalidated with
  | valid h =>
    refine ⟨hok, fun hnone => absurd h.name hnone, fun _ hrepeated => ?_, fun _ _ hother => ?_⟩
    · exact absurd h.declarations_nodup hrepeated
    · exact absurd h.references hother
  | unnamed hname =>
    exact ⟨hok, fun _ => rfl, fun h => absurd h hname, fun h => absurd h hname⟩
  | repeated view hname hview =>
    refine ⟨hok, fun hnone => absurd hname hnone, fun _ _ => ?_, fun _ hnodup => ?_⟩
    · obtain ⟨j, hplace⟩ := isFirstRepeated_iff_getElem?.mp hview
      exact ⟨view, j, rfl, hplace⟩
    · exact absurd hnodup hview.not_nodup
  | undeclared view hname hnodup hview =>
    refine ⟨hok, fun hnone => absurd hname hnone, fun _ hrepeated => ?_, fun _ _ _ => ?_⟩
    · exact absurd hnodup hrepeated
    · exact ⟨view, rfl, hview⟩

/-- Everything is wrong with an area but its name: what is named is the declaration that closes the
first pair, not the one that opens it. -/
example : (validate ⟨"hall", ["gate", "door", "door", "gate"], ["attic"], ["roof"]⟩)
    = .error (.declaredTwice "hall" "door") := by
  decide +kernel

end Commissioning.FeatureArea
