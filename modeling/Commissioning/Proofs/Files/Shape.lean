import Commissioning.Files.System
import Commissioning.Proofs.Sequence

set_option autoImplicit false

/-! # File systems of one shape

Two file systems have one shape when the same paths lead to directories and to files in both. What
the files hold does not matter to anything but reading: writing a file and making a directory
succeed on both or fail on both for the same reason, and leave them of one shape
(`SameShape.write`, `SameShape.makeDirectories`). -/

namespace Commissioning.FileSystem

open Files (Entry Error)

/-- Whether two file systems have directories at the same locations, and files at the same ones. -/
structure SameShape (fs fs' : FileSystem) : Prop where
  here : fs'.here = fs.here
  directory : ∀ loc, fs'.isDirectoryAt loc = fs.isDirectoryAt loc
  present : ∀ loc, (fs'.find? loc).isSome = (fs.find? loc).isSome

variable {fs fs' : FileSystem}

/-- Where a file system has directories and files. -/
structure Shape where
  here : Location
  isDirectoryAt : Location → Bool
  isPresent : Location → Bool

/-- The shape of a file system, which does not tell what files hold. -/
def shape (fs : FileSystem) : Shape where
  here := fs.here
  isDirectoryAt := fs.isDirectoryAt
  isPresent loc := (fs.find? loc).isSome

theorem shape_eq_iff : fs.shape = fs'.shape ↔ SameShape fs fs' := by
  constructor
  · intro h
    have hdirectory : fs.isDirectoryAt = fs'.isDirectoryAt := congrArg Shape.isDirectoryAt h
    have hpresent : fs.shape.isPresent = fs'.shape.isPresent := congrArg Shape.isPresent h
    exact ⟨(congrArg Shape.here h).symm, fun loc => (congrFun hdirectory loc).symm,
      fun loc => (congrFun hpresent loc).symm⟩
  · intro h
    unfold shape
    rw [h.here, ← funext h.directory, ← funext h.present]

/-! ## Walking -/

theorem SameShape.step (h : SameShape fs fs') : fs'.step = fs.step := by
  funext loc segment
  unfold FileSystem.step
  rw [h.directory, h.present]

theorem SameShape.walk (h : SameShape fs fs') : fs'.walk = fs.walk := by
  funext start segments
  unfold FileSystem.walk
  rw [h.step]

theorem SameShape.startOf (h : SameShape fs fs') : fs'.startOf = fs.startOf := by
  funext p
  unfold FileSystem.startOf
  rw [h.here]

theorem SameShape.resolve (h : SameShape fs fs') : fs'.resolve = fs.resolve := by
  funext p
  unfold FileSystem.resolve
  rw [h.walk, h.startOf]

theorem SameShape.resolveParent (h : SameShape fs fs') :
    fs'.resolveParent = fs.resolveParent := by
  funext p segments
  unfold FileSystem.resolveParent
  simp only [h.walk, h.startOf, h.directory]

theorem SameShape.isDirectory (h : SameShape fs fs') : fs'.isDirectory = fs.isDirectory := by
  funext p
  unfold FileSystem.isDirectory
  simp only [h.resolve, h.directory]

/-! ## Changes -/

theorem SameShape.refl (fs : FileSystem) : SameShape fs fs :=
  ⟨rfl, fun _ => rfl, fun _ => rfl⟩

/-- A directory or a file at the same location leaves two file systems of one shape. -/
theorem SameShape.set (h : SameShape fs fs') (loc : Location) {e e' : Entry}
    (he : e' = .directory ↔ e = .directory) : SameShape (fs.set loc e) (fs'.set loc e') := by
  refine ⟨h.here, fun other => ?_, fun other => ?_⟩
  · have hdirectory := h.directory other
    unfold isDirectoryAt at hdirectory ⊢
    by_cases hroot : other = []
    · subst hroot
      rfl
    · by_cases hsame : other = loc
      · subst hsame
        rw [find?_set_self fs other e hroot, find?_set_self fs' other e' hroot, Bool.eq_iff_iff]
        simpa using he
      · rwa [find?_set_of_ne fs loc other e hsame, find?_set_of_ne fs' loc other e' hsame]
  · by_cases hroot : other = []
    · subst hroot
      rfl
    · by_cases hsame : other = loc
      · subst hsame
        rw [find?_set_self fs other e hroot, find?_set_self fs' other e' hroot]
        rfl
      · rw [find?_set_of_ne fs loc other e hsame, find?_set_of_ne fs' loc other e' hsame,
          h.present]

/-- **A file is written in both or in neither.** -/
theorem SameShape.write (h : SameShape fs fs') (p : Path) (bytes : List UInt8) :
    Matched SameShape (fs.write p bytes) (fs'.write p bytes) := by
  unfold FileSystem.write
  refine .bind_same _ fun _ => ?_
  rw [h.resolveParent]
  refine .bind_same _ fun (above, name) => ?_
  simp only [h.directory]
  exact .ite (.error _) (.ite (.error _) (.ite (.error _) (.ok (h.set _ Iff.rfl))))

theorem SameShape.makeDirectory (h : SameShape fs fs') (p : Path) :
    Matched SameShape (fs.makeDirectory p) (fs'.makeDirectory p) := by
  unfold FileSystem.makeDirectory
  refine .bind_same _ fun _ => ?_
  refine .ite (.error _) ?_
  rw [h.resolveParent]
  refine .bind_same _ fun (above, name) => ?_
  simp only [h.present]
  exact .ite (.error _) (.ite (.error _) (.ite (.error _) (.ok (h.set _ Iff.rfl))))

theorem SameShape.makeNearest (h : SameShape fs fs') (passed paths : List Path) :
    Matched (fun made made' => SameShape made.1 made'.1 ∧ made'.2 = made.2)
      (fs.makeNearest passed paths) (fs'.makeNearest passed paths) := by
  induction paths generalizing passed with
  | nil => exact .ok ⟨h, rfl⟩
  | cons p above ih =>
    have hmade := h.makeDirectory p
    unfold FileSystem.makeNearest
    refine .ite (.ok ⟨h, rfl⟩) ?_
    generalize fs.makeDirectory p = made at hmade ⊢
    generalize fs'.makeDirectory p = made' at hmade ⊢
    cases hmade with
    | ok hshape => exact .ok ⟨hshape, rfl⟩
    | error e =>
      cases e with
      | notFound => exact ih (p :: passed)
      | alreadyExists =>
        simp only
        rw [h.isDirectory]
        exact .ite (.ok ⟨h, rfl⟩) (.error _)
      | _ => exact .error _

theorem SameShape.makeAll (h : SameShape fs fs') (paths : List Path) :
    SameShape (fs.makeAll paths).1 (fs'.makeAll paths).1 ∧
      (fs'.makeAll paths).2 = (fs.makeAll paths).2 := by
  induction paths generalizing fs fs' with
  | nil => exact ⟨h, rfl⟩
  | cons p below ih =>
    have hmade := h.makeDirectory p
    unfold FileSystem.makeAll
    generalize fs.makeDirectory p = made at hmade ⊢
    generalize fs'.makeDirectory p = made' at hmade ⊢
    cases hmade with
    | ok hshape => exact ih hshape
    | error e =>
      cases e with
      | alreadyExists =>
        simp only
        rw [h.isDirectory]
        split
        · exact ih h
        · exact ⟨h, rfl⟩
      | _ => exact ⟨h, rfl⟩

/-- **Directories are made in both up to the same one.** -/
theorem SameShape.makeDirectories (h : SameShape fs fs') (p : Path) :
    SameShape (fs.makeDirectories p).1 (fs'.makeDirectories p).1 ∧
      (fs'.makeDirectories p).2 = (fs.makeDirectories p).2 := by
  have hmade := h.makeNearest [] p.ancestors
  unfold FileSystem.makeDirectories
  split
  · exact ⟨h, rfl⟩
  · generalize fs.makeNearest [] p.ancestors = made at hmade ⊢
    generalize fs'.makeNearest [] p.ancestors = made' at hmade ⊢
    cases hmade with
    | error e => exact ⟨h, rfl⟩
    | ok hpair =>
      rename_i pair pair'
      obtain ⟨made, missing⟩ := pair
      obtain ⟨made', missing'⟩ := pair'
      obtain ⟨hshape, rfl⟩ := hpair
      exact hshape.makeAll missing'

end Commissioning.FileSystem
