import Commissioning.Proofs.Files.Writing

set_option autoImplicit false

/-! # Plain names

The saver takes the last part of a suggested name and then the blanks around it, in this order. What
comes of it is never empty, and it has no slash and no blank at its ends (`plainName_tamed`). It is
one or two dots, which name no entry of a directory, exactly where the last part is such dots with
blanks around them: they were not dots yet when the part was chosen. Nothing is ever written under
such a name (`isPlain_of_write_join`). -/

namespace Commissioning

/-! ## The last part of a text -/

namespace Path

/-- Whether a text names an entry of a directory. -/
structure IsPlain (name : String) : Prop where
  ne_empty : name ≠ ""
  isName : IsName name
  ne_here : name ≠ "."
  ne_above : name ≠ ".."

/-- Whether a segment of a text is the last one that counts: it is not empty and no single dot, and
behind it there are none but such. -/
def IsLastPart (part : List Char) (text : String) : Prop :=
  ∃ front back, Text.pieces '/' text.toList = front ++ part :: back ∧ isIdle part = false ∧
    ∀ segment ∈ back, isIdle segment = true

/-- The last part is the first one to be found from the end. -/
theorem isLastPart_iff {part : List Char} {text : String} :
    IsLastPart part text ↔
      ∃ rest, (Path.mk text).segments.reverse.dropWhile isIdle = part :: rest := by
  unfold IsLastPart segments
  constructor
  · rintro ⟨front, back, hpieces, hcounts, hback⟩
    have hback' : ∀ segment ∈ back.reverse, isIdle segment = true :=
      fun segment hsegment => hback segment (List.mem_reverse.mp hsegment)
    refine ⟨front.reverse, ?_⟩
    rw [hpieces, List.reverse_append, List.reverse_cons, List.append_assoc,
      List.dropWhile_append_of_pos hback', List.singleton_append, List.dropWhile_cons,
      if_neg (by simp [hcounts])]
  · rintro ⟨rest, hrest⟩
    have hcut := List.takeWhile_append_dropWhile (p := isIdle)
      (l := (Text.pieces '/' text.toList).reverse)
    have hhead := List.head?_dropWhile_not isIdle (Text.pieces '/' text.toList).reverse
    rw [hrest] at hcut hhead
    generalize htaken : (Text.pieces '/' text.toList).reverse.takeWhile isIdle = taken at hcut
    refine ⟨rest.reverse, taken.reverse, ?_, by simpa using hhead, ?_⟩
    · rw [← List.reverse_reverse (Text.pieces '/' text.toList), ← hcut, List.reverse_append,
        List.reverse_cons, List.append_assoc, List.singleton_append]
    · intro segment hsegment
      rw [← htaken] at hsegment
      exact List.mem_takeWhile_imp (List.mem_reverse.mp hsegment)

/-- A text has one last part at most. -/
theorem IsLastPart.unique {part part' : List Char} {text : String} (h : IsLastPart part text)
    (h' : IsLastPart part' text) : part = part' := by
  obtain ⟨rest, hrest⟩ := isLastPart_iff.mp h
  obtain ⟨rest', hrest'⟩ := isLastPart_iff.mp h'
  exact (List.cons.inj (hrest.symm.trans hrest')).1

theorem fileName?_eq_some {part : List Char} {text : String} (h : IsLastPart part text)
    (hup : part ≠ ['.', '.']) : (Path.mk text).fileName? = some (String.ofList part) := by
  obtain ⟨rest, hrest⟩ := isLastPart_iff.mp h
  unfold fileName?
  rw [hrest]
  exact if_neg hup

theorem fileName?_eq_none {text : String} (h : ∀ part, IsLastPart part text → part = ['.', '.']) :
    (Path.mk text).fileName? = none := by
  unfold fileName?
  cases hrest : (Path.mk text).segments.reverse.dropWhile isIdle with
  | nil => rfl
  | cons part rest => exact if_pos (h part (isLastPart_iff.mpr ⟨rest, hrest⟩))

/-- What is written into a directory is written under a plain name. -/
theorem isPlain_of_write_join {fs fs' : FileSystem} {dir : Path} {name : String}
    (hname : IsName name) {bytes : List UInt8} (h : fs.write (dir.join name) bytes = .ok fs') :
    IsPlain name := by
  obtain ⟨above, last, htarget, -⟩ := FileSystem.write_cases h
  obtain ⟨-, rfl⟩ := htarget.walk_dir hname
  have hidle := htarget.notIdle
  have hup := htarget.notUp
  refine ⟨?_, hname, ?_, ?_⟩
  · rintro rfl
    exact absurd hidle (by decide)
  · rintro rfl
    exact absurd hidle (by decide)
  · rintro rfl
    exact absurd rfl hup

end Path

/-! ## What a suggested name comes to -/

namespace Saver

open Commissioning.Path (IsLastPart IsPlain)

/-- What the saver makes of a suggested name: the last part without the blanks around it, or a name
of its own if that leaves nothing. -/
inductive Made (suggested : String) : String → Prop
  | fallback (h : ∀ part, IsLastPart part suggested →
      part = ['.', '.'] ∨ Text.trimBlanks part = []) : Made suggested "download"
  | kept (part : List Char) (hpart : IsLastPart part suggested) (hup : part ≠ ['.', '.'])
      (hne : Text.trimBlanks part ≠ []) :
      Made suggested (String.ofList (Text.trimBlanks part))

theorem made_plainName (suggested : String) : Made suggested (plainName suggested) := by
  unfold plainName
  by_cases hpart : ∃ part, IsLastPart part suggested ∧ part ≠ ['.', '.']
  · obtain ⟨part, hpart, hup⟩ := hpart
    rw [Path.fileName?_eq_some hpart hup]
    simp only [Option.getD_some, Text.trim, String.toList_ofList]
    split
    next hempty =>
      rw [String.isEmpty_iff, String.ofList_eq_empty_iff] at hempty
      exact .fallback fun other hother => .inr (hother.unique hpart ▸ hempty)
    next hsome =>
      rw [String.isEmpty_iff, String.ofList_eq_empty_iff] at hsome
      exact .kept part hpart hup hsome
  · have hup : ∀ part, IsLastPart part suggested → part = ['.', '.'] :=
      fun part h => not_not.mp fun hne => hpart ⟨part, h, hne⟩
    rw [Path.fileName?_eq_none hup]
    exact .fallback fun part h => .inl (hup part h)

variable {suggested name : String}

theorem Made.ne_empty (h : Made suggested name) : name ≠ "" := by
  cases h with
  | fallback => decide
  | kept part hpart hup hne => rwa [ne_eq, String.ofList_eq_empty_iff]

theorem Made.isTrimmed (h : Made suggested name) : Text.IsTrimmed name.toList := by
  cases h with
  | fallback => exact ⟨by simp [Text.isBlank], by simp [Text.isBlank]⟩
  | kept part hpart hup hne =>
    rw [String.toList_ofList]
    exact Text.isTrimmed_trimBlanks part

theorem Made.eq_of_kept (h : Made suggested name) {part : List Char}
    (hpart : IsLastPart part suggested) (hup : part ≠ ['.', '.'])
    (hne : Text.trimBlanks part ≠ []) : name = String.ofList (Text.trimBlanks part) := by
  cases h with
  | fallback h => exact absurd (h part hpart) (not_or.mpr ⟨hup, hne⟩)
  | kept other hother => rw [hother.unique hpart]

theorem Made.eq_of_fallback (h : Made suggested name)
    (hnone : ∀ part, IsLastPart part suggested → part = ['.', '.'] ∨ Text.trimBlanks part = []) :
    name = "download" := by
  cases h with
  | fallback => rfl
  | kept part hpart hup hne => exact absurd (hnone part hpart) (not_or.mpr ⟨hup, hne⟩)

/-- Whether a part is one or two dots with blanks around them. -/
def IsPaddedDots (part : List Char) : Prop :=
  part ≠ ['.', '.'] ∧ (Text.trimBlanks part = ['.'] ∨ Text.trimBlanks part = ['.', '.'])

/-- A name of the saver is dots exactly where the last part is dots in blanks. -/
theorem Made.eq_dots_iff (h : Made suggested name) :
    (name = "." ∨ name = "..") ↔ ∃ part, IsLastPart part suggested ∧ IsPaddedDots part := by
  cases h with
  | fallback h =>
    refine iff_of_false (by decide) ?_
    rintro ⟨part, hpart, hup, hdots⟩
    rcases h part hpart with habove | hblank
    · exact hup habove
    · rcases hdots with hdots | hdots <;> exact absurd (hblank.symm.trans hdots) (by simp)
  | kept part hpart hup hne =>
    have hdots : ∀ dots : List Char, String.ofList (Text.trimBlanks part) = String.ofList dots ↔
        Text.trimBlanks part = dots := fun dots => String.ofList_inj
    rw [show ("." : String) = String.ofList ['.'] from rfl,
      show (".." : String) = String.ofList ['.', '.'] from rfl, hdots, hdots]
    constructor
    · exact fun h => ⟨part, hpart, hup, h⟩
    · rintro ⟨other, hother, -, h⟩
      rwa [hother.unique hpart] at h

/-- What is said of the name that the saver makes of a suggested one. -/
structure Tamed (suggested name : String) : Prop where
  ne_empty : name ≠ ""
  no_slash : '/' ∉ name.toList
  trimmed : Text.IsTrimmed name.toList
  /-- The name is dots exactly where the last part is dots in blanks, and a plain one otherwise. -/
  dots_iff : (name = "." ∨ name = "..") ↔
    ∃ part, IsLastPart part suggested ∧ IsPaddedDots part
  plain_iff : IsPlain name ↔ ∀ part, IsLastPart part suggested → ¬ IsPaddedDots part
  /-- A last part that leaves something is kept without the blanks around it. -/
  kept : ∀ part, IsLastPart part suggested → part ≠ ['.', '.'] → Text.trimBlanks part ≠ [] →
    name = String.ofList (Text.trimBlanks part)
  /-- Where there is no last part, or it leads upwards or is blank, the name is `download`. -/
  fallback : (∀ part, IsLastPart part suggested →
    part = ['.', '.'] ∨ Text.trimBlanks part = []) → name = "download"
  /-- The saver joins the name to its directory, and no file system takes a file under dots. -/
  joined : ∀ s : Saver, s.target suggested = s.dir.join name ∧ (¬ IsPlain name →
    ∀ (fs fs' : FileSystem) (bytes : List UInt8), fs.write (s.target suggested) bytes ≠ .ok fs')

/-- **Every suggested name comes to a name without slashes and without blanks at its ends**, and to
that of an entry of the directory unless the last part of the suggested name is dots in blanks. -/
theorem plainName_tamed (suggested : String) : Tamed suggested (plainName suggested) where
  ne_empty := (made_plainName suggested).ne_empty
  no_slash := isName_plainName suggested
  trimmed := (made_plainName suggested).isTrimmed
  dots_iff := (made_plainName suggested).eq_dots_iff
  plain_iff := by
    have hmade := made_plainName suggested
    constructor
    · intro hplain part hpart hpadded
      exact (hmade.eq_dots_iff.mpr ⟨part, hpart, hpadded⟩).elim hplain.ne_here hplain.ne_above
    · intro hnone
      have hplain : ¬ (plainName suggested = "." ∨ plainName suggested = "..") :=
        fun h => (hmade.eq_dots_iff.mp h).elim fun part hpart => hnone part hpart.1 hpart.2
      exact ⟨hmade.ne_empty, isName_plainName suggested,
        fun hhere => hplain (.inl hhere), fun habove => hplain (.inr habove)⟩
  kept _ hpart hup hne := (made_plainName suggested).eq_of_kept hpart hup hne
  fallback hnone := (made_plainName suggested).eq_of_fallback hnone
  joined s := ⟨rfl, fun hdots fs fs' bytes hwrite =>
    hdots (Path.isPlain_of_write_join (isName_plainName suggested) hwrite)⟩

/-- Two suggested names whose last parts are dots in blanks, and what the saver makes of them. -/
theorem plainName_of_padded_dots :
    plainName "a/ .." = ".." ∧ plainName "a/. /" = "." ∧
      (Saver.mk ⟨"out"⟩).target "a/ .." = ⟨"out/.."⟩ := by
  decide

end Saver

end Commissioning
