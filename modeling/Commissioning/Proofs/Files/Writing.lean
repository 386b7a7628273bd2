import Commissioning.Files.System
import Commissioning.Proofs.Files.Names
import Commissioning.Proofs.Sequence
import Mathlib.Data.List.Basic

set_option autoImplicit false

/-! # Writing files

A file that has been written is read back, over the same path (`read_write`), until the same path is
written again: other files of its directory and new directories do not touch it
(`read_write_of_ne`, `MadeAlong.keeps`). The path is walked a second time in a file system
that has changed, so what a change leaves in place is said first. -/

namespace Commissioning.FileSystem

open Files (Entry Error)

/-! ## What is still there -/

/-- Whether a file system has every directory of another one, and something wherever that one has
something. -/
structure Extends (fs fs' : FileSystem) : Prop where
  here : fs'.here = fs.here
  directory : ∀ loc, fs.isDirectoryAt loc = true → fs'.isDirectoryAt loc = true
  present : ∀ loc, (fs.find? loc).isSome = true → (fs'.find? loc).isSome = true

theorem Extends.refl (fs : FileSystem) : Extends fs fs :=
  ⟨rfl, fun _ h => h, fun _ h => h⟩

theorem Extends.trans {fs fs' fs'' : FileSystem} (h : Extends fs fs') (h' : Extends fs' fs'') :
    Extends fs fs'' where
  here := h'.here.trans h.here
  directory loc hloc := h'.directory loc (h.directory loc hloc)
  present loc hloc := h'.present loc (h.present loc hloc)

/-- Where a segment leads: nowhere else, upwards, or to something that is there. -/
theorem step_eq_ok_iff {fs : FileSystem} {loc loc' : Location} {segment : List Char} :
    fs.step loc segment = .ok loc' ↔ fs.isDirectoryAt loc = true ∧
      (Path.isIdle segment = true ∧ loc' = loc ∨
        Path.isIdle segment = false ∧ segment = ['.', '.'] ∧ loc' = loc.dropLast ∨
        Path.isIdle segment = false ∧ segment ≠ ['.', '.'] ∧ ¬ 255 < nameSize segment ∧
          (fs.find? (loc ++ [segment])).isSome = true ∧ loc' = loc ++ [segment]) := by
  unfold FileSystem.step
  cases hdirectory : fs.isDirectoryAt loc with
  | false => simp
  | true =>
    cases hidle : Path.isIdle segment with
    | true =>
      simp only [Bool.not_true, Bool.false_eq_true, if_false, if_true, Except.ok.injEq, true_and,
        Bool.true_eq_false, false_and, or_false]
      exact eq_comm
    | false =>
      by_cases hup : segment = ['.', '.']
      · simp only [Bool.not_true, Bool.false_eq_true, if_false, hup, if_true, Except.ok.injEq,
          true_and, false_and, ne_eq, not_true_eq_false, false_or, or_false]
        exact eq_comm
      · by_cases hlong : 255 < nameSize segment
        · simp [hup, hlong]
        · by_cases hpresent : (fs.find? (loc ++ [segment])).isSome = true
          · simp only [Bool.not_true, Bool.false_eq_true, if_false, hup, hlong, hpresent, if_true,
              Except.ok.injEq, true_and, false_and, ne_eq, not_false_eq_true, false_or]
            exact eq_comm
          · simp [hup, hlong, hpresent]

/-- A walk goes on from where it has led. -/
theorem walk_concat {fs : FileSystem} {start above loc : Location} {front : List (List Char)}
    {segment : List Char} (hwalk : fs.walk start front = .ok above)
    (hstep : fs.step above segment = .ok loc) :
    fs.walk start (front ++ [segment]) = .ok loc := by
  unfold FileSystem.walk at hwalk ⊢
  rw [List.foldlM_append, hwalk, ok_bind, List.foldlM_cons, hstep]
  rfl

theorem Extends.step {fs fs' : FileSystem} (h : Extends fs fs') {loc loc' : Location}
    {segment : List Char} (hstep : fs.step loc segment = .ok loc') :
    fs'.step loc segment = .ok loc' := by
  rw [step_eq_ok_iff] at hstep ⊢
  obtain ⟨hdirectory, hidle | hup | ⟨hidle, hup, hshort, hpresent, hloc⟩⟩ := hstep
  · exact ⟨h.directory loc hdirectory, Or.inl hidle⟩
  · exact ⟨h.directory loc hdirectory, Or.inr (Or.inl hup)⟩
  · exact ⟨h.directory loc hdirectory,
      Or.inr (Or.inr ⟨hidle, hup, hshort, h.present _ hpresent, hloc⟩)⟩

theorem Extends.walk {fs fs' : FileSystem} (h : Extends fs fs') {start loc : Location}
    {segments : List (List Char)} (hwalk : fs.walk start segments = .ok loc) :
    fs'.walk start segments = .ok loc := by
  unfold FileSystem.walk at hwalk ⊢
  induction segments generalizing start with
  | nil => exact hwalk
  | cons segment segments ih =>
    rw [List.foldlM_cons] at hwalk ⊢
    obtain ⟨next, hstep, hrest⟩ := bind_eq_ok_iff.mp hwalk
    rw [h.step hstep, ok_bind]
    exact ih hrest

theorem Extends.startOf {fs fs' : FileSystem} (h : Extends fs fs') (p : Path) :
    fs'.startOf p = fs.startOf p := by
  unfold FileSystem.startOf
  rw [h.here]

/-- Something new where no directory is leaves every directory in place. -/
theorem extends_set {fs : FileSystem} {loc : Location} (hloc : fs.isDirectoryAt loc = false)
    (hne : loc ≠ []) (e : Entry) : Extends fs (fs.set loc e) where
  here := rfl
  directory other hother := by
    have hdiffers : other ≠ loc := by
      rintro rfl
      rw [hloc] at hother
      exact absurd hother (by simp)
    unfold isDirectoryAt at hother ⊢
    rwa [find?_set_of_ne fs loc other e hdiffers]
  present other hother := by
    by_cases hsame : other = loc
    · rw [hsame, find?_set_self fs loc e hne, Option.isSome_some]
    · rwa [find?_set_of_ne fs loc other e hsame]

/-! ## Where a file is written -/

/-- Where a path that can be written to leads: a directory, and a name in it that stands for no
other directory. -/
structure Target (fs : FileSystem) (p : Path) (above : Location) (name : List Char) : Prop where
  admissible : admissible p = .ok ()
  segments : p.segments = p.segments.dropLast ++ [name]
  walk : fs.walk (fs.startOf p) p.segments.dropLast = .ok above
  directory : fs.isDirectoryAt above = true
  notIdle : Path.isIdle name = false
  notUp : name ≠ ['.', '.']
  short : ¬ 255 < nameSize name
  free : fs.isDirectoryAt (above ++ [name]) = false

theorem segments_eq_dropLast_append {segments : List (List Char)} {name : List Char}
    (hname : segments.getLast?.getD [] = name) (hidle : Path.isIdle name = false) :
    segments = segments.dropLast ++ [name] := by
  cases hlast : segments.getLast? with
  | none =>
    rw [hlast, Option.getD_none] at hname
    rw [← hname] at hidle
    exact absurd hidle (by decide)
  | some last =>
    rw [hlast, Option.getD_some] at hname
    rw [← hname]
    exact (List.dropLast_append_getLast? last hlast).symm

/-- Writing changes one entry, and only where a file may stand. -/
theorem write_cases {fs fs' : FileSystem} {p : Path} {bytes : List UInt8}
    (h : fs.write p bytes = .ok fs') :
    ∃ above name, Target fs p above name ∧ fs' = fs.set (above ++ [name]) (.file bytes) := by
  unfold write resolveParent at h
  obtain ⟨⟨⟩, hadmissible, h⟩ := bind_eq_ok_iff.mp h
  obtain ⟨⟨above, name⟩, hparent, h⟩ := bind_eq_ok_iff.mp h
  obtain ⟨above', hwalk, hparent⟩ := bind_eq_ok_iff.mp hparent
  split at hparent
  next hdirectory =>
    rw [Except.ok.injEq, Prod.mk.injEq] at hparent
    obtain ⟨rfl, hname⟩ := hparent
    -- Each check that is passed is a field of the target.
    simp only at h
    split at h
    next => exact absurd h (by simp)
    next hidle =>
      split at h
      next => exact absurd h (by simp)
      next hlong =>
        split at h
        next => exact absurd h (by simp)
        next hfree =>
          simp only [Bool.or_eq_true, beq_iff_eq, not_or, Bool.not_eq_true] at hidle hfree
          have hsegments := segments_eq_dropLast_append hname hidle.1
          exact ⟨above', name, ⟨hadmissible, hsegments, hwalk, hdirectory, hidle.1, hidle.2,
            hlong, hfree⟩, (Except.ok.inj h).symm⟩
  next => exact absurd hparent (by simp)

/-- A name leads to what is new under it in a directory. -/
theorem step_set {fs : FileSystem} {above : Location} {name : List Char}
    (hdirectory : fs.isDirectoryAt above = true) (hidle : Path.isIdle name = false)
    (hup : name ≠ ['.', '.']) (hshort : ¬ 255 < nameSize name)
    (hfree : fs.isDirectoryAt (above ++ [name]) = false) (e : Entry) :
    (fs.set (above ++ [name]) e).step above name = .ok (above ++ [name]) := by
  have hne : above ++ [name] ≠ [] := by simp
  have hfound := Option.isSome_of_mem (find?_set_self fs _ e hne)
  have hkept := (extends_set hfree hne e).directory above hdirectory
  exact step_eq_ok_iff.mpr ⟨hkept, Or.inr (Or.inr ⟨hidle, hup, hshort, hfound, rfl⟩)⟩

/-- A path leads to the file that was written over it. -/
theorem Target.resolve {fs : FileSystem} {p : Path} {above : Location} {name : List Char}
    (h : Target fs p above name) (bytes : List UInt8) :
    (fs.set (above ++ [name]) (.file bytes)).resolve p = .ok (above ++ [name]) := by
  -- The new file replaces no directory, so the way to it is walked as before.
  have hextends := extends_set h.free (by simp) (.file bytes)
  have hwalk := hextends.walk h.walk
  have hstep := step_set h.directory h.notIdle h.notUp h.short h.free (.file bytes)
  unfold FileSystem.resolve
  rw [h.admissible, ok_bind, hextends.startOf, h.segments]
  exact walk_concat hwalk hstep

/-- **A file that has been written is read back.** -/
theorem read_write {fs fs' : FileSystem} {p : Path} {bytes : List UInt8}
    (h : fs.write p bytes = .ok fs') : fs'.read p = .ok bytes := by
  obtain ⟨above, name, htarget, rfl⟩ := write_cases h
  have hne : above ++ [name] ≠ [] := by simp
  unfold read
  rw [htarget.resolve bytes, ok_bind, find?_set_self fs _ _ hne]

/-! ## Making directories -/

/-- Whether a file system has all that another one has. -/
structure Keeps (fs fs' : FileSystem) : Prop where
  here : fs'.here = fs.here
  entry : ∀ loc e, fs.find? loc = some e → fs'.find? loc = some e

theorem Keeps.refl (fs : FileSystem) : Keeps fs fs :=
  ⟨rfl, fun _ _ h => h⟩

theorem Keeps.trans {fs fs' fs'' : FileSystem} (h : Keeps fs fs') (h' : Keeps fs' fs'') :
    Keeps fs fs'' :=
  ⟨h'.here.trans h.here, fun loc e he => h'.entry loc e (h.entry loc e he)⟩

theorem Keeps.extends {fs fs' : FileSystem} (h : Keeps fs fs') : Extends fs fs' where
  here := h.here
  directory loc hloc := by
    unfold isDirectoryAt at hloc ⊢
    rw [beq_iff_eq] at hloc ⊢
    exact h.entry loc _ hloc
  present loc hloc := by
    obtain ⟨e, he⟩ := Option.isSome_iff_exists.mp hloc
    rw [h.entry loc e he, Option.isSome_some]

/-- Something new where nothing has been leaves all else in place. -/
theorem keeps_set {fs : FileSystem} {loc : Location} (hloc : fs.find? loc = none) (e : Entry) :
    Keeps fs (fs.set loc e) where
  here := rfl
  entry other e' he' := by
    have hdiffers : other ≠ loc := by
      rintro rfl
      exact absurd (hloc.symm.trans he') (by simp)
    rwa [find?_set_of_ne fs loc other e hdiffers]

/-- A new directory changes one entry, and only where nothing has been; the path leads there, with
or without the slashes at its end. -/
theorem makeDirectory_cases {fs fs' : FileSystem} {p : Path} (h : fs.makeDirectory p = .ok fs') :
    ∃ front above name, front ++ [name] <+: p.segments ∧
      fs.walk (fs.startOf p) front = .ok above ∧
      fs.find? (above ++ [name]) = none ∧ fs' = fs.set (above ++ [name]) .directory ∧
      fs'.step above name = .ok (above ++ [name]) := by
  unfold makeDirectory at h
  obtain ⟨⟨⟩, -, h⟩ := bind_eq_ok_iff.mp h
  simp only at h
  split at h
  · exact absurd h (by simp)
  · obtain ⟨⟨above, name⟩, hparent, h⟩ := bind_eq_ok_iff.mp h
    obtain ⟨above', hwalk, hparent⟩ := bind_eq_ok_iff.mp hparent
    split at hparent
    next hdirectory =>
      rw [Except.ok.injEq, Prod.mk.injEq] at hparent
      obtain ⟨rfl, hname⟩ := hparent
      simp only at h
      split at h
      next => exact absurd h (by simp)
      next hidle =>
        split at h
        next => exact absurd h (by simp)
        next hlong =>
          split at h
          next => exact absurd h (by simp)
          next hfree =>
            simp only [Bool.or_eq_true, beq_iff_eq, not_or, Bool.not_eq_true] at hidle
            have hnone := Option.not_isSome_iff_eq_none.mp hfree
            have hplain : fs.isDirectoryAt (above' ++ [name]) = false := by
              rw [isDirectoryAt, hnone]
              rfl
            have hsegments := segments_eq_dropLast_append hname hidle.1
            refine ⟨_, above', name, ?_, hwalk, hnone, (Except.ok.inj h).symm, ?_⟩
            · rw [← hsegments]
              exact List.rdropWhile_prefix _ _
            · rw [← Except.ok.inj h]
              exact step_set hdirectory hidle.1 hidle.2 hlong hplain .directory
    next => exact absurd hparent (by simp)

theorem keeps_makeDirectory {fs fs' : FileSystem} {p : Path}
    (h : fs.makeDirectory p = .ok fs') : Keeps fs fs' := by
  obtain ⟨_, above, name, -, -, hnone, rfl, -⟩ := makeDirectory_cases h
  exact keeps_set hnone .directory

/-- Whether directories have been made one after another, each of them one that a path leads
through. -/
inductive MadeAlong (dir : Path) : FileSystem → FileSystem → Prop
  | none (fs : FileSystem) : MadeAlong dir fs fs
  | more {fs next last : FileSystem} (p : Path) (hp : p ∈ dir.ancestors)
      (hmade : fs.makeDirectory p = .ok next) (hrest : MadeAlong dir next last) :
      MadeAlong dir fs last

theorem MadeAlong.trans {dir : Path} {fs fs' fs'' : FileSystem} (h : MadeAlong dir fs fs')
    (h' : MadeAlong dir fs' fs'') : MadeAlong dir fs fs'' := by
  induction h with
  | none => exact h'
  | more p hp hmade _ ih => exact .more p hp hmade (ih h')

theorem MadeAlong.keeps {dir : Path} {fs fs' : FileSystem} (h : MadeAlong dir fs fs') :
    Keeps fs fs' := by
  induction h with
  | none fs => exact Keeps.refl fs
  | more p hp hmade _ ih => exact (keeps_makeDirectory hmade).trans ih

theorem madeAlong_makeNearest {dir : Path} {fs fs' : FileSystem} {passed missing paths : List Path}
    (hpaths : paths ⊆ dir.ancestors) (hpassed : passed ⊆ dir.ancestors)
    (h : fs.makeNearest passed paths = .ok (fs', missing)) :
    MadeAlong dir fs fs' ∧ missing ⊆ dir.ancestors := by
  induction paths generalizing passed with
  | nil =>
    rw [makeNearest, Except.ok.injEq, Prod.mk.injEq] at h
    obtain ⟨rfl, rfl⟩ := h
    exact ⟨.none fs, hpassed⟩
  | cons p above ih =>
    obtain ⟨hp, habove⟩ := List.cons_subset.mp hpaths
    -- A path is made, or is there, or is left for later with those above it tried first.
    rw [makeNearest] at h
    split at h
    · rw [Except.ok.injEq, Prod.mk.injEq] at h
      obtain ⟨rfl, rfl⟩ := h
      exact ⟨.none fs, hpassed⟩
    · split at h
      next made hmade =>
        rw [Except.ok.injEq, Prod.mk.injEq] at h
        obtain ⟨rfl, rfl⟩ := h
        exact ⟨.more p hp hmade (.none made), hpassed⟩
      next => exact ih habove (List.cons_subset.mpr ⟨hp, hpassed⟩) h
      next =>
        split at h
        · rw [Except.ok.injEq, Prod.mk.injEq] at h
          obtain ⟨rfl, rfl⟩ := h
          exact ⟨.none fs, hpassed⟩
        · exact absurd h (by simp)
      next => exact absurd h (by simp)

theorem madeAlong_makeAll {dir : Path} (fs : FileSystem) {paths : List Path}
    (h : paths ⊆ dir.ancestors) : MadeAlong dir fs (fs.makeAll paths).1 := by
  induction paths generalizing fs with
  | nil => exact .none fs
  | cons p below ih =>
    obtain ⟨hp, hbelow⟩ := List.cons_subset.mp h
    rw [makeAll]
    split
    next made hmade => exact .more p hp hmade (ih made hbelow)
    next =>
      split
      · exact ih fs hbelow
      · exact .none fs
    next => exact .none fs

/-- Directories are made along a path, whether all of them can be made or not. -/
theorem madeAlong_makeDirectories (fs : FileSystem) (p : Path) :
    MadeAlong p fs (fs.makeDirectories p).1 := by
  unfold makeDirectories
  split
  · exact .none fs
  · split
    next => exact .none fs
    next made missing hmade =>
      obtain ⟨hnearest, hmissing⟩ :=
        madeAlong_makeNearest (List.Subset.refl _) (List.nil_subset _) hmade
      exact hnearest.trans (madeAlong_makeAll made hmissing)

/-! ## What stays readable -/

theorem Extends.resolve {fs fs' : FileSystem} (h : Extends fs fs') {p : Path} {loc : Location}
    (hresolve : fs.resolve p = .ok loc) : fs'.resolve p = .ok loc := by
  unfold FileSystem.resolve at hresolve ⊢
  obtain ⟨⟨⟩, hadmissible, hwalk⟩ := bind_eq_ok_iff.mp hresolve
  rw [hadmissible, ok_bind, h.startOf]
  exact h.walk hwalk

theorem read_eq_ok_iff {fs : FileSystem} {p : Path} {bytes : List UInt8} :
    fs.read p = .ok bytes ↔ ∃ loc, fs.resolve p = .ok loc ∧ fs.find? loc = some (.file bytes) := by
  unfold read
  rw [bind_eq_ok_iff]
  refine exists_congr fun loc => and_congr_right fun _ => ?_
  cases hfind : fs.find? loc with
  | none => simp
  | some e => cases e <;> simp

/-- A path to a file leads to something. -/
theorem contains_of_read {fs : FileSystem} {p : Path} {bytes : List UInt8}
    (h : fs.read p = .ok bytes) : fs.contains p = true := by
  obtain ⟨loc, hresolve, -⟩ := read_eq_ok_iff.mp h
  unfold FileSystem.contains
  rw [hresolve]
  rfl

theorem Keeps.read {fs fs' : FileSystem} (h : Keeps fs fs') {p : Path} {bytes : List UInt8}
    (hread : fs.read p = .ok bytes) : fs'.read p = .ok bytes := by
  obtain ⟨loc, hresolve, hfile⟩ := read_eq_ok_iff.mp hread
  exact read_eq_ok_iff.mpr ⟨loc, h.extends.resolve hresolve, h.entry loc _ hfile⟩

/-! ## Names in one directory -/

/-- The way to a directory leads there with a slash at its end too. -/
theorem walk_of_segments {fs : FileSystem} {start loc : Location}
    {front segments : List (List Char)} (hsegments : segments = front ∨ segments = front ++ [[]])
    (hwalk : fs.walk start front = .ok loc) (hdirectory : fs.isDirectoryAt loc = true) :
    fs.walk start segments = .ok loc := by
  rcases hsegments with rfl | rfl
  · exact hwalk
  · exact walk_concat hwalk (step_eq_ok_iff.mpr ⟨hdirectory, Or.inl ⟨rfl, rfl⟩⟩)

/-- The path of a name in a directory leads through the directory. -/
theorem exists_walk_of_resolve_join {fs : FileSystem} {dir : Path} {name : String}
    (hname : Path.IsName name) {loc : Location} (h : fs.resolve (dir.join name) = .ok loc) :
    ∃ above, fs.walk (fs.startOf dir) dir.segments = .ok above ∧
      fs.step above name.toList = .ok loc := by
  obtain ⟨front, hdir, hsegments⟩ := Path.exists_segments_join dir
  obtain ⟨hjoin, hroot⟩ := hsegments name hname
  unfold FileSystem.resolve startOf FileSystem.walk at h
  obtain ⟨⟨⟩, -, hwalk⟩ := bind_eq_ok_iff.mp h
  rw [hroot, hjoin, List.foldlM_append] at hwalk
  obtain ⟨above, habove, hlast⟩ := bind_eq_ok_iff.mp hwalk
  rw [List.foldlM_cons] at hlast
  obtain ⟨next, hstep, hnext⟩ := bind_eq_ok_iff.mp hlast
  rw [← Except.ok.inj hnext]
  exact ⟨above, walk_of_segments hdir habove (step_eq_ok_iff.mp hstep).1, hstep⟩

/-- A name in a directory is written into the directory. -/
theorem Target.walk_dir {fs : FileSystem} {dir : Path} {name : String} {above : Location}
    {last : List Char} (h : Target fs (dir.join name) above last) (hname : Path.IsName name) :
    fs.walk (fs.startOf dir) dir.segments = .ok above ∧ last = name.toList := by
  obtain ⟨front, hdir, hsegments⟩ := Path.exists_segments_join dir
  obtain ⟨hjoin, hroot⟩ := hsegments name hname
  have hwalk := h.walk
  have hend := h.segments
  rw [hjoin, List.dropLast_concat] at hwalk hend
  have hstart : fs.startOf (dir.join name) = fs.startOf dir := by
    unfold startOf
    rw [hroot]
  rw [hstart] at hwalk
  exact ⟨walk_of_segments hdir hwalk h.directory,
    (List.cons.inj (List.append_cancel_left hend)).1.symm⟩

/-- Where a step upwards or nowhere leads is no place in the directory. -/
theorem eq_of_step_eq_append {fs : FileSystem} {above : Location} {segment last : List Char}
    (h : fs.step above segment = .ok (above ++ [last])) : segment = last := by
  obtain ⟨-, ⟨-, hloc⟩ | ⟨-, -, hloc⟩ | ⟨-, -, -, -, hloc⟩⟩ := step_eq_ok_iff.mp h
  · exact absurd (congrArg List.length hloc) (by simp)
  · exact absurd (congrArg List.length hloc) (by simp; omega)
  · exact (List.cons.inj (List.append_cancel_left hloc)).1.symm

/-- **A file is not touched by writing another one** of the same directory. -/
theorem read_write_of_ne {fs fs' : FileSystem} {dir : Path} {name name' : String}
    (hname : Path.IsName name) (hname' : Path.IsName name') (hne : name ≠ name')
    {bytes bytes' : List UInt8} (hread : fs.read (dir.join name) = .ok bytes)
    (hwrite : fs.write (dir.join name') bytes' = .ok fs') :
    fs'.read (dir.join name) = .ok bytes := by
  obtain ⟨loc, hresolve, hfile⟩ := read_eq_ok_iff.mp hread
  obtain ⟨above, last, htarget, rfl⟩ := write_cases hwrite
  -- Both paths lead through the same directory, and part in their last segment.
  obtain ⟨hwalk, rfl⟩ := htarget.walk_dir hname'
  obtain ⟨above', hwalk', hstep⟩ := exists_walk_of_resolve_join hname hresolve
  obtain rfl : above = above' := Except.ok.inj (hwalk.symm.trans hwalk')
  have hdiffers : loc ≠ above ++ [name'.toList] := by
    rintro rfl
    exact hne (String.toList_inj.mp (eq_of_step_eq_append hstep))
  have hextends := extends_set htarget.free (by simp) (.file bytes')
  refine read_eq_ok_iff.mpr ⟨loc, hextends.resolve hresolve, ?_⟩
  rwa [find?_set_of_ne fs _ loc _ hdiffers]

end Commissioning.FileSystem
