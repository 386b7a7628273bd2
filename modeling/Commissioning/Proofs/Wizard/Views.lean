import Commissioning.Wizard.Basic
import Mathlib.Data.List.Nodup
import Mathlib.Order.Bounds.Basic
import Mathlib.Order.Fin.Basic

set_option autoImplicit false

/-! # Lists of views

A wizard is set up on views that are not empty and all different. Where they are not, the one that
is named is the first that stands behind an equal one (`ofViews_cases`). Said by the places of the
list, it is the view at the least place that repeats an earlier one (`ofViews_outcome`). -/

namespace Commissioning

/-! ## Repetitions -/

variable {α : Type}

/-- Whether an element stands behind an equal one, and is the first of a list to do so. -/
def IsFirstRepeated (a : α) (list : List α) : Prop :=
  ∃ before after, list = before ++ a :: after ∧ before.Nodup ∧ a ∈ before

theorem firstRepeated?_eq_none_iff [DecidableEq α] {seen list : List α} :
    firstRepeated? seen list = none ↔ list.Nodup ∧ ∀ a ∈ list, a ∉ seen := by
  induction list generalizing seen with
  | nil => simp [firstRepeated?]
  | cons a list ih =>
    rw [firstRepeated?]
    by_cases ha : a ∈ seen
    · simp [ha]
    · rw [if_neg ha, ih, List.nodup_cons]
      simp only [List.mem_cons, not_or, forall_eq_or_imp, ha, not_false_eq_true, true_and]
      constructor
      · rintro ⟨hnodup, hfresh⟩
        exact ⟨⟨fun hmem => (hfresh a hmem).1 rfl, hnodup⟩, fun b hb => (hfresh b hb).2⟩
      · rintro ⟨⟨hmem, hnodup⟩, hfresh⟩
        exact ⟨hnodup, fun b hb => ⟨fun heq => hmem (heq ▸ hb), hfresh b hb⟩⟩

/-- What is found stands behind an equal element, in the list or among those seen before it. -/
theorem exists_of_firstRepeated?_eq_some [DecidableEq α] {seen list : List α} {a : α}
    (h : firstRepeated? seen list = some a) :
    ∃ before after, list = before ++ a :: after ∧ before.Nodup ∧ (∀ b ∈ before, b ∉ seen) ∧
      (a ∈ seen ∨ a ∈ before) := by
  induction list generalizing seen with
  | nil => exact absurd h (by simp [firstRepeated?])
  | cons b list ih =>
    rw [firstRepeated?] at h
    by_cases hb : b ∈ seen
    · rw [if_pos hb, Option.some.injEq] at h
      subst h
      exact ⟨[], list, rfl, List.nodup_nil, by simp, Or.inl hb⟩
    · rw [if_neg hb] at h
      -- The search goes on with `b` among the elements that it has seen.
      obtain ⟨before, after, rfl, hnodup, hfresh, ha⟩ := ih h
      have hnew : b ∉ before := fun hmem => hfresh b hmem List.mem_cons_self
      refine ⟨b :: before, after, rfl, List.nodup_cons.mpr ⟨hnew, hnodup⟩, ?_, ?_⟩
      · intro c hc
        rcases List.mem_cons.mp hc with rfl | hc
        · exact hb
        · exact fun hseen => hfresh c hc (List.mem_cons_of_mem b hseen)
      · rcases ha with ha | ha
        · rcases List.mem_cons.mp ha with rfl | ha
          · exact Or.inr List.mem_cons_self
          · exact Or.inl ha
        · exact Or.inr (List.mem_cons_of_mem b ha)

theorem isFirstRepeated_of_firstRepeated? [DecidableEq α] {list : List α} {a : α}
    (h : firstRepeated? [] list = some a) : IsFirstRepeated a list := by
  obtain ⟨before, after, hlist, hnodup, -, ha⟩ := exists_of_firstRepeated?_eq_some h
  exact ⟨before, after, hlist, hnodup, ha.resolve_left List.not_mem_nil⟩

theorem IsFirstRepeated.not_nodup {list : List α} {a : α} (h : IsFirstRepeated a list) :
    ¬ list.Nodup := by
  obtain ⟨before, after, rfl, -, ha⟩ := h
  intro hnodup
  exact (List.nodup_append.mp hnodup).2.2 a ha a List.mem_cons_self rfl

/-- A list whose elements are not all different has a first repetition. -/
theorem exists_isFirstRepeated [DecidableEq α] {list : List α} (h : ¬ list.Nodup) :
    ∃ a, IsFirstRepeated a list := by
  cases hfound : firstRepeated? [] list with
  | none => exact absurd (firstRepeated?_eq_none_iff.mp hfound).1 h
  | some a => exact ⟨a, isFirstRepeated_of_firstRepeated? hfound⟩

theorem IsFirstRepeated.ne_nil {list : List α} {a : α} (h : IsFirstRepeated a list) :
    list ≠ [] := by
  obtain ⟨before, after, rfl, -⟩ := h
  simp

/-- The first repetition by its place: no earlier place holds an element from before it. -/
theorem isFirstRepeated_iff_getElem? {list : List α} {a : α} :
    IsFirstRepeated a list ↔ ∃ j : Nat, list[j]? = some a ∧ (∃ i < j, list[i]? = some a) ∧
      ∀ k < j, ∀ i < k, list[i]? ≠ list[k]? := by
  constructor
  · rintro ⟨before, after, rfl, hnodup, ha⟩
    obtain ⟨i, hi, hbefore⟩ := List.getElem_of_mem ha
    refine ⟨before.length, by simp, ⟨i, hi, ?_⟩, fun k hk i hik => ?_⟩
    · rw [List.getElem?_append_left hi, List.getElem?_eq_getElem hi, hbefore]
    · rw [List.getElem?_append_left (Nat.lt_trans hik hk), List.getElem?_append_left hk]
      exact List.nodup_iff_getElem?_ne_getElem?.mp hnodup i k hik hk
  · rintro ⟨j, hj, ⟨i, hij, hi⟩, hleast⟩
    obtain ⟨hlt, hhere⟩ := List.getElem?_eq_some_iff.mp hj
    refine ⟨list.take j, list.drop (j + 1), ?_, ?_, ?_⟩
    · rw [← hhere, ← List.drop_eq_getElem_cons hlt, List.take_append_drop]
    · refine List.nodup_iff_getElem?_ne_getElem?.mpr fun i k hik hk => ?_
      rw [List.length_take] at hk
      have hkj : k < j := by omega
      rw [List.getElem?_take_of_lt (Nat.lt_trans hik hkj), List.getElem?_take_of_lt hkj]
      exact hleast k hkj i hik
    · rw [← List.getElem?_take_of_lt hij] at hi
      exact List.mem_of_getElem? hi

/-- The places of a list at which an element comes again that stands at an earlier place. -/
def repetitions (list : List α) : Set (Fin list.length) :=
  {j | ∃ i < j, list.get i = list.get j}

theorem getElem?_eq_iff_get_eq {list : List α} (i j : Fin list.length) :
    list[(i : Nat)]? = list[(j : Nat)]? ↔ list.get i = list.get j := by
  rw [List.getElem?_eq_getElem i.isLt, List.getElem?_eq_getElem j.isLt, Option.some.injEq]
  rfl

/-- The first repetition is the element at the least place that repeats an earlier one. -/
theorem isFirstRepeated_iff_isLeast {list : List α} {a : α} :
    IsFirstRepeated a list ↔ ∃ j, IsLeast (repetitions list) j ∧ list.get j = a := by
  rw [isFirstRepeated_iff_getElem?]
  constructor
  · rintro ⟨j, hj, ⟨i, hij, hi⟩, hleast⟩
    obtain ⟨hlt, hhere⟩ := List.getElem?_eq_some_iff.mp hj
    obtain ⟨hlt', hthere⟩ := List.getElem?_eq_some_iff.mp hi
    refine ⟨⟨j, hlt⟩, ⟨⟨⟨i, hlt'⟩, hij, hthere.trans hhere.symm⟩, ?_⟩, hhere⟩
    rintro k ⟨i', hik, hsame⟩
    by_contra hbefore
    exact hleast k (Nat.lt_of_not_le hbefore) i' hik ((getElem?_eq_iff_get_eq i' k).mpr hsame)
  · rintro ⟨j, ⟨⟨i, hij, hsame⟩, hleast⟩, rfl⟩
    have hj : list[(j : Nat)]? = some (list.get j) := List.getElem?_eq_getElem j.isLt
    refine ⟨j, hj, ⟨i, hij, ((getElem?_eq_iff_get_eq i j).mpr hsame).trans hj⟩, ?_⟩
    intro k hkj i' hik hsame'
    -- Two equal elements before the least place would make a lesser one.
    have hk : k < list.length := Nat.lt_trans hkj j.isLt
    have hi' : i' < list.length := Nat.lt_trans hik hk
    have hearlier : ⟨k, hk⟩ ∈ repetitions list :=
      ⟨⟨i', hi'⟩, hik, (getElem?_eq_iff_get_eq ⟨i', hi'⟩ ⟨k, hk⟩).mp hsame'⟩
    exact absurd hkj (Nat.not_lt.mpr (hleast hearlier))

/-- A list has one first repetition at most. -/
theorem IsFirstRepeated.unique {list : List α} {a b : α} (ha : IsFirstRepeated a list)
    (hb : IsFirstRepeated b list) : a = b := by
  obtain ⟨j, hj, rfl⟩ := isFirstRepeated_iff_isLeast.mp ha
  obtain ⟨k, hk, rfl⟩ := isFirstRepeated_iff_isLeast.mp hb
  rw [hj.unique hk]

namespace Wizard

/-! ## Setting a wizard up -/

/-- The ways to set up a wizard: on its first view, or not at all. -/
inductive SetUp (views : List String) : Except Fault Wizard → Prop
  | empty (hviews : views = []) : SetUp views (.error .noViews)
  | repeated (view : String) (hview : IsFirstRepeated view views) :
      SetUp views (.error (.duplicateView view))
  | started (hpos : 0 < views.length) (hnodup : views.Nodup) :
      SetUp views (.ok ⟨views, 0, .inProgress, hpos⟩)

theorem ofViews_cases (views : List String) : SetUp views (ofViews views) := by
  unfold ofViews
  split
  next hpos =>
    split
    next view hrepeated => exact .repeated view (isFirstRepeated_of_firstRepeated? hrepeated)
    next hnone => exact .started hpos (firstRepeated?_eq_none_iff.mp hnone).1
  next hempty => exact .empty (List.eq_nil_of_length_eq_zero (by omega))

/-- A wizard that has been set up is in progress at the start of its list, whose views all differ. -/
theorem start_of_ofViews {views : List String} {w : Wizard} (h : ofViews views = .ok w) :
    w.views = views ∧ w.position = 0 ∧ w.state = .inProgress ∧ views.Nodup := by
  have hstarted := ofViews_cases views
  rw [h] at hstarted
  cases hstarted with
  | started _ hnodup => exact ⟨rfl, rfl, rfl, hnodup⟩

/-- A wizard at the start of its list shows the first view. -/
theorem head?_views {w : Wizard} (h : w.position = 0) : w.views.head? = some w.currentView := by
  obtain ⟨views, position, state, hlt⟩ := w
  subst h
  rw [List.head?_eq_getElem?]
  exact List.getElem?_eq_getElem hlt

/-! ## What the list decides -/

variable {views : List String}

theorem ofViews_eq_noViews_iff : ofViews views = .error .noViews ↔ views = [] := by
  have hsetUp := ofViews_cases views
  generalize ofViews views = outcome at hsetUp
  cases hsetUp with
  | empty hviews => exact iff_of_true rfl hviews
  | repeated view hview => exact iff_of_false (by simp) hview.ne_nil
  | started hpos hnodup => exact iff_of_false (by simp) (List.ne_nil_of_length_pos hpos)

theorem ofViews_eq_duplicateView_iff {view : String} :
    ofViews views = .error (.duplicateView view) ↔ IsFirstRepeated view views := by
  have hsetUp := ofViews_cases views
  generalize ofViews views = outcome at hsetUp
  cases hsetUp with
  | empty hviews => exact iff_of_false (by simp) fun hview => hview.ne_nil hviews
  | repeated first hfirst =>
    simp only [Except.error.injEq, Fault.duplicateView.injEq]
    constructor
    · rintro rfl
      exact hfirst
    · exact hfirst.unique
  | started hpos hnodup => exact iff_of_false (by simp) fun hview => hview.not_nodup hnodup

theorem exists_ofViews_eq_ok_iff :
    (∃ w, ofViews views = .ok w) ↔ views ≠ [] ∧ views.Nodup := by
  have hsetUp := ofViews_cases views
  generalize ofViews views = outcome at hsetUp
  cases hsetUp with
  | empty hviews => exact iff_of_false (by simp) fun h => h.1 hviews
  | repeated view hview => exact iff_of_false (by simp) fun h => hview.not_nodup h.2
  | started hpos hnodup => exact iff_of_true ⟨_, rfl⟩ ⟨List.ne_nil_of_length_pos hpos, hnodup⟩

/-- What setting up a wizard keeps to, by the list of its views. -/
structure SetUpContract (views : List String) (outcome : Except Fault Wizard) : Prop where
  no_views : outcome = .error .noViews ↔ views = []
  /-- The view that is named stands at the least place that repeats an earlier one. -/
  repeated_view : ∀ view, outcome = .error (.duplicateView view) ↔
    ∃ j, IsLeast (repetitions views) j ∧ views.get j = view
  /-- Nothing else stands in the way, and the list is kept as it is. -/
  started : views ≠ [] → (∀ j, ¬ IsLeast (repetitions views) j) →
    ∃ w, outcome = .ok w ∧ w.views = views ∧ w.position = 0 ∧ w.state = .inProgress
  /-- It succeeds exactly on the lists that have a view and repeat none. -/
  ok_iff : (∃ w, outcome = .ok w) ↔ views ≠ [] ∧ views.Nodup

/-- **A list of views is refused for its first repetition**, and for nothing else once it has a
view. -/
theorem ofViews_outcome (views : List String) : SetUpContract views (ofViews views) where
  no_views := ofViews_eq_noViews_iff
  repeated_view view := ofViews_eq_duplicateView_iff.trans isFirstRepeated_iff_isLeast
  started hne hnone := by
    have hnodup : views.Nodup := by
      by_contra hrepeated
      obtain ⟨view, hview⟩ := exists_isFirstRepeated hrepeated
      obtain ⟨j, hleast, -⟩ := isFirstRepeated_iff_isLeast.mp hview
      exact hnone j hleast
    obtain ⟨w, hw⟩ := exists_ofViews_eq_ok_iff.mpr ⟨hne, hnodup⟩
    obtain ⟨hviews, hposition, hstate, -⟩ := start_of_ofViews hw
    exact ⟨w, hw, hviews, hposition, hstate⟩
  ok_iff := exists_ofViews_eq_ok_iff

/-- Views are compared as they are written: names that differ in case or in blanks are different. -/
example : (ofViews ["gate", "Gate", "gate "]).isOk = true := by
  decide +kernel

end Wizard

end Commissioning
