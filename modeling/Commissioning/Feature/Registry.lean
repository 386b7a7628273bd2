import Commissioning.Feature.Area

set_option autoImplicit false

/-! # The feature registry

The areas known to the tool, in the order of their registration. An area is accepted when it is
valid and its name is new; a refused area leaves the registry as it was. -/

namespace Commissioning

/-- The registered areas. -/
structure FeatureRegistry where
  areas : List FeatureArea := []
  deriving DecidableEq, Repr

namespace FeatureRegistry

/-- The registry without areas. -/
def empty : FeatureRegistry := {}

/-- The area with a name. -/
def area? (r : FeatureRegistry) (name : String) : Option FeatureArea :=
  r.areas.find? fun a => a.name == name

/-- The first area that declares a view. -/
def ownerOf? (r : FeatureRegistry) (view : String) : Option FeatureArea :=
  r.areas.find? fun a => a.declares view

/-- The registry with one more area, or why the area is refused. -/
def register (r : FeatureRegistry) (a : FeatureArea) :
    Except FeatureArea.Fault FeatureRegistry :=
  match a.validate with
  | .error fault => .error fault
  | .ok () =>
    if (r.area? a.name).isSome then .error (.alreadyRegistered a.name)
    else .ok { areas := r.areas ++ [a] }

/-- The event that the log shows for an accepted area. -/
def registered (a : FeatureArea) : Log.Event where
  level := .debug
  source := "ibn_core::features"
  message := "Registered feature area"
  fields := [{ name := "area", value := a.name },
    { name := "views", value := Text.ofNat a.declarations.length }]

/-- The registry of the areas that come with the tool. -/
def builtin : Except FeatureArea.Fault FeatureRegistry :=
  empty.register .advertisement

/-- The registry as JSON. -/
def toJson (r : FeatureRegistry) : Json.Value :=
  .object [("areas", .array (r.areas.map (·.toJson)))]

end FeatureRegistry

end Commissioning
