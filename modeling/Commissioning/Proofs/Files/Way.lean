import Commissioning.Proofs.Files.Writing

set_option autoImplicit false

/-! # The way to a directory

Making a directory tries the paths above it too. Each of them is where paths start or begins like
the path itself (`begins_of_mem_ancestors`), so what is made is made on the way that the path takes,
where nothing has been, and all else is as it was (`MadeAlong.entry`). -/

namespace Commissioning

/-! ## Pieces put together -/

/-- Pieces without a separator in them are the pieces of what they are put together to. -/
theorem Text.pieces_joinPieces {sep : Char} {parts : List (List Char)} (hne : parts ≠ [])
    (h : ∀ part ∈ parts, sep ∉ part) : pieces sep (joinPieces sep parts) = parts := by
  induction parts with
  | nil => exact absurd rfl hne
  | cons part rest ih =>
    obtain ⟨hpart, hrest⟩ := List.forall_mem_cons.mp h
    cases rest with
    | nil => exact pieces_of_not_mem hpart
    | cons next more =>
      rw [joinPieces, pieces_append_cons, pieces_of_not_mem hpart, ih (by simp) hrest]
      · rfl
      · simp

/-! ## Paths above a path -/

namespace Path

theorem isAbsolute_iff {p : Path} :
    p.isAbsolute = true ↔ ∃ second rest, p.segments = [] :: second :: rest := by
  unfold isAbsolute segments
  rw [beq_iff_eq]
  cases p.text.toList with
  | nil => simp [Text.pieces]
  | cons c cs =>
    obtain ⟨piece, more, hpieces⟩ := List.exists_cons_of_ne_nil (Text.pieces_ne_nil '/' cs)
    rw [Text.pieces, hpieces]
    by_cases hc : c = '/' <;> simp [hc]

/-- Whether a path begins like another one from its start to the end of a segment. -/
structure Begins (front p : Path) : Prop where
  segments : front.segments <+: p.segments
  isAbsolute : front.isAbsolute = p.isAbsolute

theorem Begins.trans {p q r : Path} (h : Begins p q) (h' : Begins q r) : Begins p r :=
  ⟨h.segments.trans h'.segments, h.isAbsolute.trans h'.isAbsolute⟩

theorem trimIdle_prefix_self (isAbsolute : Bool) (parts : List (List Char)) :
    trimIdle isAbsolute parts <+: parts := by
  unfold trimIdle
  cases parts with
  | nil => exact List.prefix_rfl
  | cons first rest =>
    simp only
    split
    · exact List.nil_prefix
    · exact (List.prefix_cons_inj first).mpr (List.rdropWhile_prefix isIdle rest)

/-- The first segments of a path make a path that begins like it. -/
theorem begins_of_first_parts {p : Path} {parts : List (List Char)} (hparts : parts <+: p.segments)
    (hne : parts ≠ []) (hroot : parts ≠ [[]]) :
    Begins ⟨String.ofList (Text.joinPieces '/' parts)⟩ p := by
  have hsegments : (Path.mk (String.ofList (Text.joinPieces '/' parts))).segments = parts := by
    unfold segments
    rw [String.toList_ofList]
    exact Text.pieces_joinPieces hne
      fun part hpart => Text.not_mem_of_mem_pieces (hparts.subset hpart)
  refine ⟨by rwa [hsegments], ?_⟩
  -- The first two segments tell whether a path starts at the root.
  obtain ⟨rest, hrest⟩ := hparts
  rw [Bool.eq_iff_iff, isAbsolute_iff, isAbsolute_iff, hsegments, ← hrest]
  match parts, hne, hroot with
  | [first], _, hroot => simp [show first ≠ [] from fun hfirst => hroot (hfirst ▸ rfl)]
  | first :: second :: more, _, _ => simp

/-- The path above another one is where paths start, or begins like it. -/
theorem begins_of_parent? {p above : Path} (h : p.parent? = some above) :
    above.parent? = none ∧ (∀ segment ∈ above.segments, segment = []) ∨ Begins above p := by
  have hstart : ∀ start : Path, start = ⟨""⟩ ∨ start = ⟨"/"⟩ →
      start.parent? = none ∧ ∀ segment ∈ start.segments, segment = [] := by
    rintro start (rfl | rfl) <;> decide
  unfold parent? at h
  split at h
  next => exact absurd h (by simp)
  next =>
    split at h
    · exact absurd h (by simp)
    · rw [← Option.some.inj h]
      exact .inl (hstart _ (.inl rfl))
  next =>
    have hprefix := ((trimIdle_prefix_self p.isAbsolute _).trans (List.dropLast_prefix _)).trans
      (trimIdle_prefix_self p.isAbsolute p.segments)
    split at h
    next =>
      rw [← Option.some.inj h]
      exact .inl (hstart _ (.inr rfl))
    next parts hroot =>
      rw [← Option.some.inj h]
      by_cases hne : trimIdle p.isAbsolute (trimIdle p.isAbsolute p.segments).dropLast = []
      · rw [hne]
        exact .inl (hstart _ (.inl rfl))
      · exact .inr (begins_of_first_parts hprefix hne hroot)

/-- A path and those above it are where paths start, or begin like it. -/
theorem begins_of_mem_ancestors {p above : Path} (h : above ∈ p.ancestors) :
    (∀ segment ∈ above.segments, segment = []) ∨ Begins above p := by
  unfold ancestors at h
  generalize p.segments.length = fuel at h
  induction fuel generalizing p with
  | zero =>
    rw [ancestorsWithin, List.mem_singleton] at h
    exact .inr (h ▸ ⟨List.prefix_rfl, rfl⟩)
  | succ fuel ih =>
    rw [ancestorsWithin] at h
    have hself : ∀ {q : Path}, q = p → Begins q p := fun hq => hq ▸ ⟨List.prefix_rfl, rfl⟩
    cases hparent : p.parent? with
    | none =>
      rw [hparent, List.mem_singleton] at h
      exact .inr (hself h)
    | some next =>
      rw [hparent] at h
      rcases List.mem_cons.mp h with rfl | h
      · exact .inr (hself rfl)
      · rcases begins_of_parent? hparent with ⟨hnone, hempty⟩ | hbegins
        · -- Above a start there is nothing more.
          have hstart : ancestorsWithin fuel next = [next] := by
            cases fuel <;> simp [ancestorsWithin, hnone]
          rw [hstart, List.mem_singleton] at h
          exact .inl (h ▸ hempty)
        · exact (ih h).imp_right fun hfront => hfront.trans hbegins

end Path

namespace FileSystem

/-! ## Directories on the way -/

/-- Whether a path leads through a location, or there. -/
def OnTheWay (fs : FileSystem) (p : Path) (loc : Location) : Prop :=
  ∃ front, front <+: p.segments ∧ fs.walk (fs.startOf p) front = .ok loc

theorem Extends.onTheWay {fs fs' : FileSystem} (h : Extends fs fs') {p : Path} {loc : Location}
    (hway : fs.OnTheWay p loc) : fs'.OnTheWay p loc := by
  obtain ⟨front, hfront, hwalk⟩ := hway
  exact ⟨front, hfront, h.startOf p ▸ h.walk hwalk⟩

/-- What a path above another one has a name for is on the way. -/
theorem onTheWay_of_mem_ancestors {fs : FileSystem} {dir p : Path} (hp : p ∈ dir.ancestors)
    {front : List (List Char)} {above : Location} {name : List Char}
    (hfront : front ++ [name] <+: p.segments) (hwalk : fs.walk (fs.startOf p) front = .ok above)
    (hstep : fs.step above name = .ok (above ++ [name])) : fs.OnTheWay dir (above ++ [name]) := by
  rcases Path.begins_of_mem_ancestors hp with hempty | hbegins
  · -- An empty segment leads nowhere else.
    have hname : name = [] := hempty name (hfront.subset (by simp))
    rw [hname, step_eq_ok_iff] at hstep
    simp [Path.isIdle] at hstep
  · have hstart : fs.startOf p = fs.startOf dir := by
      unfold startOf
      rw [hbegins.isAbsolute]
    exact ⟨front ++ [name], hfront.trans hbegins.segments, walk_concat (hstart ▸ hwalk) hstep⟩

/-- Whether a directory has been made on the way that a path takes, where nothing has been. -/
structure MadeOnTheWay (dir : Path) (fs fs' : FileSystem) (loc : Location) : Prop where
  missing : fs.find? loc = none
  made : fs'.find? loc = some .directory
  onTheWay : fs'.OnTheWay dir loc

/-- **Making directories changes nothing** but what is missing on the way. -/
theorem MadeAlong.entry {dir : Path} {fs fs' : FileSystem} (h : MadeAlong dir fs fs')
    (loc : Location) : fs'.find? loc = fs.find? loc ∨ MadeOnTheWay dir fs fs' loc := by
  induction h with
  | none => exact .inl rfl
  | @more fs next last p hp hmade hrest ih =>
    obtain ⟨front, above, name, hfront, hwalk, hnone, rfl, hstep⟩ := makeDirectory_cases hmade
    have hkept := keeps_makeDirectory hmade
    by_cases hloc : loc = above ++ [name]
    · have hne : above ++ [name] ≠ [] := by simp
      have hway := onTheWay_of_mem_ancestors hp hfront
        (hkept.extends.startOf p ▸ hkept.extends.walk hwalk) hstep
      rw [hloc]
      exact .inr ⟨hnone, hrest.keeps.entry _ _ (find?_set_self _ _ _ hne),
        hrest.keeps.extends.onTheWay hway⟩
    · have hsame := find?_set_of_ne fs _ loc .directory hloc
      rcases ih with ih | ih
      · exact .inl (ih.trans hsame)
      · exact .inr ⟨hsame ▸ ih.missing, ih.made, ih.onTheWay⟩

end FileSystem

end Commissioning
