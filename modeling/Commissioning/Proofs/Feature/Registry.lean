import Commissioning.Feature.Registry
import Mathlib.Data.List.Nodup
import Mathlib.Tactic.Common

set_option autoImplicit false

/-! # Registrations

A registry only grows, and only by areas that it takes (`register_cases`): valid ones with a name
that no area has had before. So its areas stay valid and keep names of their own (`Tidy.afterAll`),
and what it has once said about a name or a view it says again after any further registrations
(`Extends.area?`, `Extends.ownerOf?`). `registrations_sound` puts this together for the registries
that are reached from the empty one and from the one that comes with the tool. -/

namespace Commissioning.FeatureRegistry

variable {r r' : FeatureRegistry}

/-! ## One registration -/

/-- Whether a registry takes an area. -/
structure Takes (r : FeatureRegistry) (a : FeatureArea) : Prop where
  valid : a.validate = .ok ()
  fresh : ∀ b ∈ r.areas, b.name ≠ a.name

/-- What comes of a registration: the area is refused for what is wrong with it or for a name that
another one has, or it becomes the last one of the registry. -/
inductive Registered (r : FeatureRegistry) (a : FeatureArea) :
    Except FeatureArea.Fault FeatureRegistry → Prop
  | invalid (fault : FeatureArea.Fault) (hfault : a.validate = .error fault) :
      Registered r a (.error fault)
  | known (b : FeatureArea) (hb : b ∈ r.areas) (hname : b.name = a.name) :
      Registered r a (.error (.alreadyRegistered a.name))
  | taken (htakes : r.Takes a) : Registered r a (.ok ⟨r.areas ++ [a]⟩)

theorem register_cases (r : FeatureRegistry) (a : FeatureArea) : Registered r a (r.register a) := by
  unfold register
  cases hvalid : a.validate with
  | error fault => exact .invalid fault hvalid
  | ok =>
    cases hfound : r.area? a.name with
    | some b =>
      have hname : b.name = a.name := by simpa using List.find?_some hfound
      exact .known b (List.mem_of_find?_eq_some hfound) hname
    | none =>
      refine .taken ⟨hvalid, fun b hb hname => ?_⟩
      have hdiffers := List.find?_eq_none.mp hfound b hb
      simp [hname] at hdiffers

/-- A registration is refused exactly where the registry does not take the area. -/
theorem exists_register_eq_ok_iff {a : FeatureArea} :
    (∃ next, r.register a = .ok next) ↔ r.Takes a := by
  have hcases := register_cases r a
  generalize r.register a = answer at hcases
  cases hcases with
  | invalid fault hfault =>
    refine ⟨fun ⟨next, hnext⟩ => absurd hnext (by simp), fun h => ?_⟩
    exact absurd (hfault.symm.trans h.valid) (by simp)
  | known b hb hname =>
    refine ⟨fun ⟨next, hnext⟩ => absurd hnext (by simp), fun h => ?_⟩
    exact absurd hname (h.fresh b hb)
  | taken htakes => exact ⟨fun _ => htakes, fun _ => ⟨_, rfl⟩⟩

theorem areas_of_register {a : FeatureArea} {next : FeatureRegistry}
    (h : r.register a = .ok next) : next.areas = r.areas ++ [a] := by
  have hcases := register_cases r a
  rw [h] at hcases
  cases hcases with
  | taken htakes => rfl

/-! ## Registrations in turn -/

/-- The registry after a registration; it stays as it is when it refuses the area. -/
def after (r : FeatureRegistry) (a : FeatureArea) : FeatureRegistry :=
  match r.register a with
  | .ok next => next
  | .error _ => r

/-- The registry after several registrations. -/
def afterAll (r : FeatureRegistry) (calls : List FeatureArea) : FeatureRegistry :=
  calls.foldl after r

/-- Those of several areas that are accepted, each by the registry that it finds. -/
def accepted (r : FeatureRegistry) : List FeatureArea → List FeatureArea
  | [] => []
  | a :: calls =>
    match r.register a with
    | .ok next => a :: accepted next calls
    | .error _ => accepted r calls

theorem after_of_ok {a : FeatureArea} {next : FeatureRegistry} (h : r.register a = .ok next) :
    r.after a = next := by
  rw [after, h]

theorem after_of_error {a : FeatureArea} {fault : FeatureArea.Fault}
    (h : r.register a = .error fault) : r.after a = r := by
  rw [after, h]

/-- The areas are those from before, and behind them the accepted ones as they came. -/
theorem areas_afterAll (r : FeatureRegistry) (calls : List FeatureArea) :
    (r.afterAll calls).areas = r.areas ++ r.accepted calls := by
  induction calls generalizing r with
  | nil => exact (List.append_nil _).symm
  | cons a calls ih =>
    show ((r.after a).afterAll calls).areas = _
    rw [accepted]
    cases hregister : r.register a with
    | error fault => rw [after_of_error hregister, ih]
    | ok next =>
      rw [after_of_ok hregister, ih, areas_of_register hregister, List.append_assoc,
        List.singleton_append]

/-! ## What stays true -/

/-- Whether the areas of a registry have names of their own and are valid. -/
structure Tidy (r : FeatureRegistry) : Prop where
  names_nodup : (r.areas.map (·.name)).Nodup
  valid : ∀ a ∈ r.areas, a.validate = .ok ()

theorem tidy_empty : Tidy empty where
  names_nodup := List.nodup_nil
  valid _ ha := absurd ha List.not_mem_nil

/-- A registry that takes an area stays tidy with it. -/
theorem Tidy.append (h : r.Tidy) {a : FeatureArea} (ha : r.Takes a) : Tidy ⟨r.areas ++ [a]⟩ where
  names_nodup := by
    rw [List.map_append, List.map_singleton]
    refine h.names_nodup.append (List.nodup_singleton _) (List.disjoint_singleton.mpr ?_)
    intro hname
    obtain ⟨b, hb, hsame⟩ := List.mem_map.mp hname
    exact ha.fresh b hb hsame
  valid := by
    intro b hb
    rcases List.mem_append.mp hb with hold | hnew
    · exact h.valid b hold
    · rw [List.mem_singleton.mp hnew]
      exact ha.valid

theorem Tidy.after (h : r.Tidy) (a : FeatureArea) : (r.after a).Tidy := by
  have hcases := register_cases r a
  unfold FeatureRegistry.after
  generalize r.register a = answer at hcases ⊢
  cases hcases with
  | invalid fault hfault => exact h
  | known b hb hname => exact h
  | taken htakes => exact h.append htakes

theorem Tidy.afterAll (h : r.Tidy) (calls : List FeatureArea) : (r.afterAll calls).Tidy := by
  induction calls generalizing r with
  | nil => exact h
  | cons a calls ih => exact ih (h.after a)

/-- The registry of the tool is made from the empty one by a registration. -/
theorem tidy_of_builtin (h : builtin = .ok r) : r.Tidy := by
  have hafter : empty.after .advertisement = r := after_of_ok h
  exact hafter ▸ tidy_empty.after _

/-! ## Areas by name -/

/-- In a tidy registry a name leads to the one area that has it. -/
theorem Tidy.area?_eq_some_iff (h : r.Tidy) {name : String} {a : FeatureArea} :
    r.area? name = some a ↔ a ∈ r.areas ∧ a.name = name := by
  constructor
  · intro hfound
    exact ⟨List.mem_of_find?_eq_some hfound, by simpa using List.find?_some hfound⟩
  · rintro ⟨ha, rfl⟩
    have hsome : (r.area? a.name).isSome = true := List.find?_isSome.mpr ⟨a, ha, by simp⟩
    obtain ⟨b, hb⟩ := Option.isSome_iff_exists.mp hsome
    have hname : b.name = a.name := by simpa using List.find?_some hb
    have hsame := List.inj_on_of_nodup_map h.names_nodup (List.mem_of_find?_eq_some hb) ha hname
    rw [hb, hsame]

/-! ## Areas by view -/

/-- Whether an area is the first of several that declares a view. -/
def IsFirstOwner (a : FeatureArea) (view : String) (areas : List FeatureArea) : Prop :=
  ∃ before later, areas = before ++ a :: later ∧ view ∈ a.declarations ∧
    ∀ b ∈ before, view ∉ b.declarations

theorem ownerOf?_eq_some_iff {view : String} {a : FeatureArea} :
    r.ownerOf? view = some a ↔ IsFirstOwner a view r.areas := by
  unfold ownerOf? IsFirstOwner
  rw [List.find?_eq_some_iff_append]
  simp only [FeatureArea.declares, List.contains_eq_mem, decide_eq_true_eq, Bool.not_eq_true',
    decide_eq_false_iff_not]
  constructor
  · rintro ⟨hview, before, later, hareas, hbefore⟩
    exact ⟨before, later, hareas, hview, hbefore⟩
  · rintro ⟨before, later, hareas, hview, hbefore⟩
    exact ⟨hview, before, later, hareas, hbefore⟩

/-! ## What is never taken back -/

/-- Whether a registry has come from another one by areas behind its own. -/
def Extends (r r' : FeatureRegistry) : Prop :=
  ∃ more, r'.areas = r.areas ++ more

theorem extends_afterAll (r : FeatureRegistry) (calls : List FeatureArea) :
    r.Extends (r.afterAll calls) :=
  ⟨r.accepted calls, areas_afterAll r calls⟩

/-- What is found among the areas is found among more of them. -/
theorem Extends.find? (h : r.Extends r') {p : FeatureArea → Bool} {a : FeatureArea}
    (hfound : r.areas.find? p = some a) : r'.areas.find? p = some a := by
  obtain ⟨more, hareas⟩ := h
  rw [hareas, List.find?_append, hfound, Option.some_or]

theorem Extends.area? (h : r.Extends r') {name : String} {a : FeatureArea}
    (hfound : r.area? name = some a) : r'.area? name = some a :=
  h.find? hfound

theorem Extends.ownerOf? (h : r.Extends r') {view : String} {a : FeatureArea}
    (hfound : r.ownerOf? view = some a) : r'.ownerOf? view = some a :=
  h.find? hfound

/-! ## The whole of it -/

/-- Whether a registry is one to start from: the empty one, or the one that comes with the tool. -/
def IsStart (r : FeatureRegistry) : Prop :=
  r = empty ∨ builtin = .ok r

theorem IsStart.tidy (h : r.IsStart) : r.Tidy := by
  rcases h with rfl | hbuiltin
  · exact tidy_empty
  · exact tidy_of_builtin hbuiltin

/-- What holds of a registry that some registrations have led to. -/
structure Sound (start : FeatureRegistry) (calls : List FeatureArea) (r : FeatureRegistry) :
    Prop where
  names_nodup : (r.areas.map (·.name)).Nodup
  valid : ∀ a ∈ r.areas, a.validate = .ok ()
  /-- The areas are those of the start and then the accepted ones, in the order of the calls. -/
  areas_eq : r.areas = start.areas ++ start.accepted calls
  /-- An area is accepted exactly when it is valid and its name is new. -/
  accepts_iff : ∀ a, (∃ next, r.register a = .ok next) ↔
    a.validate = .ok () ∧ ∀ b ∈ r.areas, b.name ≠ a.name
  /-- An accepted area becomes the last one, and a refused one changes nothing. -/
  accepts : ∀ a next, r.register a = .ok next →
    r.after a = next ∧ next.areas = r.areas ++ [a]
  refuses : ∀ a fault, r.register a = .error fault → r.after a = r
  /-- A name leads to the one area that has it, and to none where none has it. -/
  area?_iff : ∀ name a, r.area? name = some a ↔ a ∈ r.areas ∧ a.name = name
  area?_unique : ∀ a ∈ r.areas, ∀ b ∈ r.areas, a.name = b.name → a = b
  /-- A view leads to the earliest area that declares it. -/
  ownerOf?_iff : ∀ view a, r.ownerOf? view = some a ↔ IsFirstOwner a view r.areas
  /-- What is said of a name or a view is said again after any further registrations. -/
  area?_stable : ∀ later name a, r.area? name = some a → (r.afterAll later).area? name = some a
  ownerOf?_stable : ∀ later view a, r.ownerOf? view = some a →
    (r.afterAll later).ownerOf? view = some a

/-- **Registrations keep a registry sound**, whatever areas are offered and in whatever order. -/
theorem registrations_sound {start : FeatureRegistry} (hstart : start.IsStart)
    (calls : List FeatureArea) : Sound start calls (start.afterAll calls) := by
  have htidy := hstart.tidy.afterAll calls
  constructor
  case names_nodup => exact htidy.names_nodup
  case valid => exact htidy.valid
  case areas_eq => exact areas_afterAll start calls
  case accepts_iff =>
    intro a
    rw [exists_register_eq_ok_iff]
    exact ⟨fun h => ⟨h.valid, h.fresh⟩, fun h => ⟨h.1, h.2⟩⟩
  case accepts => exact fun a next h => ⟨after_of_ok h, areas_of_register h⟩
  case refuses => exact fun a fault h => after_of_error h
  case area?_iff => exact fun name a => htidy.area?_eq_some_iff
  case area?_unique =>
    exact fun a ha b hb hname => List.inj_on_of_nodup_map htidy.names_nodup ha hb hname
  case ownerOf?_iff => exact fun view a => ownerOf?_eq_some_iff
  case area?_stable => exact fun later name a h => (extends_afterAll _ later).area? h
  case ownerOf?_stable => exact fun later view a h => (extends_afterAll _ later).ownerOf? h

/-- An area that shares a view with the one of the tool. -/
def installationArea : FeatureArea where
  name := "installation"
  declarations := ["completion", "survey"]
  exports := ["completion"]

/-- Four areas that are offered to the registry of the tool: one whose name is taken, one with an
export that it does not declare, a new one, and that one again. -/
def offered : List FeatureArea :=
  [.advertisement, ⟨"installation", [], [], ["completion"]⟩, installationArea, installationArea]

/-- One of the four is accepted, and the view that it shares stays with the area of the tool. -/
theorem registrations_sound_offered :
    ∃ start, builtin = .ok start ∧
      (start.afterAll offered).areas = [.advertisement, installationArea] ∧
      (start.afterAll offered).ownerOf? "survey" = some .advertisement ∧
      Sound start offered (start.afterAll offered) := by
  have hstart : builtin = .ok ⟨[.advertisement]⟩ := by decide +kernel
  exact ⟨_, hstart, by decide +kernel, by decide +kernel, registrations_sound (Or.inr hstart) _⟩

end Commissioning.FeatureRegistry
