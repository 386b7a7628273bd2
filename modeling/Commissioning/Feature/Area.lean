import Commissioning.Json.Record
import Commissioning.Text.Blank
import Commissioning.Wizard.Basic

set_option autoImplicit false

/-! # Feature areas

A feature area lists the views that belong to it, the views among them that open as modals, and
the views that other areas may embed. -/

namespace Commissioning

/-- A named group of views. -/
structure FeatureArea where
  name : String
  /-- Every view of the area. -/
  declarations : List String := []
  /-- The views that open as modals. -/
  entryViews : List String := []
  /-- The views that other areas may embed. -/
  exports : List String := []
  deriving DecidableEq, Repr

namespace FeatureArea

/-- Why an area or its registration is refused. -/
inductive Fault where
  | noName
  | declaredTwice (area view : String)
  | undeclared (area view : String)
  | alreadyRegistered (area : String)
  /-- A reason in the words of whoever refused. -/
  | stated (text : String)
  deriving DecidableEq, Repr

/-- The wording of a refusal. -/
def Fault.message : Fault → String
  | noName => "feature area without name"
  | declaredTwice area view => area ++ " declares " ++ view ++ " twice"
  | undeclared area view => area ++ " references undeclared view " ++ view
  | alreadyRegistered area => "feature area " ++ area ++ " already registered"
  | stated text => text

/-! ## Building -/

/-- The area with one more view. -/
def declare (a : FeatureArea) (view : String) : FeatureArea :=
  { a with declarations := a.declarations ++ [view] }

/-- The area with one more modal. -/
def entry (a : FeatureArea) (view : String) : FeatureArea :=
  { a with entryViews := a.entryViews ++ [view] }

/-- The area with one more view that others may embed. -/
def exporting (a : FeatureArea) (view : String) : FeatureArea :=
  { a with exports := a.exports ++ [view] }

/-- What a view is added to an area as. -/
inductive Role where
  | declaration
  | entry
  | exported
  deriving DecidableEq, Repr

/-- The area with one more view in a role. -/
def add (a : FeatureArea) (role : Role) (view : String) : FeatureArea :=
  match role with
  | .declaration => a.declare view
  | .entry => a.entry view
  | .exported => a.exporting view

/-- The area with a name and views added one after another. -/
def build (name : String) (calls : List (Role × String)) : FeatureArea :=
  calls.foldl (fun a call => a.add call.1 call.2) { name := name }

/-- Whether a view belongs to the area. -/
def declares (a : FeatureArea) (view : String) : Bool :=
  a.declarations.contains view

/-- An area has a name that is not blank, declares no view twice, and refers to its own views
only. -/
def validate (a : FeatureArea) : Except Fault Unit :=
  if Text.isBlankText a.name then .error .noName
  else
    match firstRepeated? [] a.declarations with
    | some view => .error (.declaredTwice a.name view)
    | none =>
      match (a.entryViews ++ a.exports).find? fun view => !a.declares view with
      | some view => .error (.undeclared a.name view)
      | none => .ok ()

/-- The promotional tiles of the live dashboard. -/
def advertisement : FeatureArea where
  name := "advertisement"
  declarations := ["advertisement", "evcs-upgrade", "evcs-upgrade-modal", "home-electric",
    "home-electric-modal", "miniupgrade", "miniupgrade-modal", "survey"]
  entryViews := ["evcs-upgrade-modal", "miniupgrade-modal", "home-electric-modal"]
  exports := ["advertisement"]

/-! ## JSON -/

/-- An area that is being read. -/
structure Draft where
  name : Option String := none
  declarations : Option (List String) := none
  entryViews : Option (List String) := none
  exports : Option (List String) := none

/-- The fields of an area in JSON. -/
def fields : List (Json.Field Draft) :=
  [.ofLens "name" true (·.name) (fun d s => { d with name := some s }) Json.text,
   .ofLens "declarations" true (·.declarations) (fun d s => { d with declarations := some s })
     Json.texts,
   .ofLens "entry_views" true (·.entryViews) (fun d s => { d with entryViews := some s })
     Json.texts,
   .ofLens "exports" true (·.exports) (fun d s => { d with exports := some s }) Json.texts]

/-- An area in JSON. -/
def reader : Json.Reader FeatureArea := do
  let d ← Json.record "struct FeatureArea" fields {}
  pure { name := d.name.getD "", declarations := d.declarations.getD [],
         entryViews := d.entryViews.getD [], exports := d.exports.getD [] }

/-- An area as JSON. -/
def toJson (a : FeatureArea) : Json.Value :=
  .object [("name", .text a.name), ("declarations", .ofTexts a.declarations),
    ("entry_views", .ofTexts a.entryViews), ("exports", .ofTexts a.exports)]

end FeatureArea

end Commissioning
