import Commissioning.Proofs.Disk
import Commissioning.Proofs.Files.Plain
import Commissioning.Proofs.Files.Way

set_option autoImplicit false

/-! # Filing documents

A saver keeps documents under the paths that it gives for them, as a map does: after any number of
saves each of these paths holds the bytes that were saved there last, and of all else only missing
directories on the way have changed (`saves_filed`). What several saves leave is put together from
what each of them leaves (`Filed.cons`). -/

namespace Commissioning

open FileSystem (Extends MadeAlong MadeOnTheWay)

namespace Saver

/-! ## What saves leave -/

/-- A document, and what the saver has answered for it. -/
abbrev Call : Type :=
  Document × Except Protocol.Error Path

/-- Whether a path is that of a plain name in a directory, and leads to the entry of this name. -/
structure LiesIn (fs : FileSystem) (dir : Path) (name : String) (path : Path) : Prop where
  plain : Path.IsPlain name
  joined : path = dir.join name
  located : ∃ above, fs.walk (fs.startOf dir) dir.segments = .ok above ∧
    fs.isDirectoryAt above = true ∧ fs.resolve path = .ok (above ++ [name.toList])

/-- Whether a location is as it was, or has a directory that was missing on the way. -/
def SameOrMade (dir : Path) (fs fs' : FileSystem) (loc : Location) : Prop :=
  fs'.find? loc = fs.find? loc ∨ MadeOnTheWay dir fs fs' loc

/-- What saves leave on a disk, one after another. -/
structure Filed (s : Saver) (fs : FileSystem) (calls : List Call) (fs' : FileSystem) : Prop where
  extended : Extends fs fs'
  /-- A path that was given is that of the document's name in the saver's directory. -/
  liesIn : ∀ document path, (document, .ok path) ∈ calls →
    LiesIn fs' s.dir (plainName document.fileName) path
  /-- It holds what was saved there last. -/
  latest : ∀ before document path after, calls = before ++ (document, .ok path) :: after →
    (∀ later, (later, .ok path) ∉ after) → fs'.read path = .ok document.bytes
  /-- Everywhere else all is as it was, but for missing directories on the way. -/
  entry : ∀ loc, (∃ document path, (document, .ok path) ∈ calls ∧ fs'.resolve path = .ok loc) ∨
    SameOrMade s.dir fs fs' loc

variable {s : Saver} {fs next fs' : FileSystem}

theorem LiesIn.mono {dir path : Path} {name : String} (h : LiesIn fs dir name path)
    (hextends : Extends fs fs') : LiesIn fs' dir name path := by
  obtain ⟨above, hwalk, hdirectory, hresolve⟩ := h.located
  exact ⟨h.plain, h.joined, above, hextends.startOf dir ▸ hextends.walk hwalk,
    hextends.directory above hdirectory, hextends.resolve hresolve⟩

/-- Paths in one directory that lead to the same entry are the same. -/
theorem LiesIn.unique {dir path path' : Path} {name name' : String} {loc : Location}
    (h : LiesIn fs dir name path) (h' : LiesIn fs dir name' path')
    (hloc : fs.resolve path = .ok loc) (hloc' : fs.resolve path' = .ok loc) : path = path' := by
  obtain ⟨above, hwalk, -, hresolve⟩ := h.located
  obtain ⟨above', hwalk', -, hresolve'⟩ := h'.located
  obtain rfl : above = above' := Except.ok.inj (hwalk.symm.trans hwalk')
  have hsame := (Except.ok.inj (hresolve.symm.trans hloc)).trans
    (Except.ok.inj (hresolve'.symm.trans hloc')).symm
  have hname : name = name' :=
    String.toList_inj.mp (List.cons.inj (List.append_cancel_left hsame)).1
  rw [h.joined, h'.joined, hname]

theorem SameOrMade.trans {dir : Path} {loc : Location} (h : SameOrMade dir fs next loc)
    (h' : SameOrMade dir next fs' loc) (hextends : Extends next fs') :
    SameOrMade dir fs fs' loc := by
  rcases h with h | h <;> rcases h' with h' | h'
  · exact .inl (h'.trans h)
  · exact .inr ⟨h ▸ h'.missing, h'.made, h'.onTheWay⟩
  · exact .inr ⟨h.missing, h'.trans h.made, hextends.onTheWay h.onTheWay⟩
  · exact absurd (h.made.symm.trans h'.missing) (by simp)

/-- A file that is as it was is read as before. -/
theorem SameOrMade.read {dir path : Path} {loc : Location} {bytes : List UInt8}
    (h : SameOrMade dir fs fs' loc) (hextends : Extends fs fs') (hloc : fs.resolve path = .ok loc)
    (hread : fs.read path = .ok bytes) : fs'.read path = .ok bytes := by
  obtain ⟨loc', hresolve, hfile⟩ := FileSystem.read_eq_ok_iff.mp hread
  obtain rfl : loc = loc' := Except.ok.inj (hloc.symm.trans hresolve)
  refine FileSystem.read_eq_ok_iff.mpr ⟨loc, hextends.resolve hresolve, ?_⟩
  rcases h with h | h
  · exact h.trans hfile
  · exact absurd (h.missing.symm.trans hfile) (by simp)

theorem filed_nil (s : Saver) (fs : FileSystem) : s.Filed fs [] fs where
  extended := .refl fs
  liesIn _ _ hmem := absurd hmem List.not_mem_nil
  latest before _ _ _ hcalls := absurd hcalls.symm (by simp)
  entry _ := .inr (.inl rfl)

/-- **What several saves leave** is what the first of them and then the others leave. -/
theorem Filed.cons {call : Call} {calls : List Call} (hfirst : s.Filed fs [call] next)
    (hrest : s.Filed next calls fs') : s.Filed fs (call :: calls) fs' where
  extended := hfirst.extended.trans hrest.extended
  liesIn document path hmem := by
    rcases List.mem_cons.mp hmem with hcall | hmem
    · exact (hfirst.liesIn document path (by simp [hcall])).mono hrest.extended
    · exact hrest.liesIn document path hmem
  latest before document path after hcalls hlast := by
    cases before with
    | cons _ before =>
      exact hrest.latest before document path after (List.cons.inj hcalls).2 hlast
    | nil =>
      -- The path that the first save gave is not given again, so its entry stays as it is.
      obtain ⟨rfl, rfl⟩ := List.cons.inj hcalls
      have hread := hfirst.latest [] document path [] rfl (by simp)
      have hlies := hfirst.liesIn document path (by simp)
      obtain ⟨loc, hloc, -⟩ := FileSystem.read_eq_ok_iff.mp hread
      rcases hrest.entry loc with ⟨later, path', hmem, hloc'⟩ | hsame
      · have hpath := (hlies.mono hrest.extended).unique (hrest.liesIn later path' hmem)
          (hrest.extended.resolve hloc) hloc'
        exact absurd (hpath ▸ hmem) (hlast later)
      · exact hsame.read hrest.extended hloc hread
  entry loc := by
    rcases hrest.entry loc with ⟨document, path, hmem, hloc⟩ | hafter
    · exact .inl ⟨document, path, List.mem_cons_of_mem _ hmem, hloc⟩
    · rcases hfirst.entry loc with ⟨document, path, hmem, hloc⟩ | hbefore
      · rw [List.mem_singleton] at hmem
        exact .inl ⟨document, path, by simp [hmem], hrest.extended.resolve hloc⟩
      · exact .inr (hbefore.trans hafter hrest.extended)

/-! ### One save -/

theorem filed_of_error {made : FileSystem} (hmade : MadeAlong s.dir fs made) (document : Document)
    (e : Protocol.Error) : s.Filed fs [(document, .error e)] made where
  extended := hmade.keeps.extends
  liesIn _ _ hmem := absurd hmem (by simp)
  latest before _ _ _ hcalls := by cases before <;> simp at hcalls
  entry loc := .inr (hmade.entry loc)

/-- What is written under a name in a directory lies there, and nothing else has changed. -/
theorem liesIn_of_write {dir path : Path} {name : String} {bytes : List UInt8}
    (hname : Path.IsName name) (hpath : path = dir.join name)
    (hwrite : fs.write path bytes = .ok fs') :
    Extends fs fs' ∧ LiesIn fs' dir name path ∧ ∃ loc, fs'.resolve path = .ok loc ∧
      ∀ other, other ≠ loc → fs'.find? other = fs.find? other := by
  have hplain := Path.isPlain_of_write_join hname (hpath ▸ hwrite)
  obtain ⟨above, last, htarget, rfl⟩ := FileSystem.write_cases hwrite
  obtain ⟨hwalk, hlast⟩ := (hpath ▸ htarget).walk_dir hname
  have hresolve := htarget.resolve bytes
  have hextends := FileSystem.extends_set htarget.free (by simp) (.file bytes)
  refine ⟨hextends, ⟨hplain, hpath, above, ?_, ?_, hlast ▸ hresolve⟩, above ++ [last], hresolve, ?_⟩
  · exact hextends.startOf dir ▸ hextends.walk hwalk
  · exact hextends.directory above htarget.directory
  · exact fun other hother => FileSystem.find?_set_of_ne fs _ other (.file bytes) hother

theorem filed_of_write {made : FileSystem} (hmade : MadeAlong s.dir fs made) {document : Document}
    {path : Path} (hpath : path = s.dir.join (plainName document.fileName))
    (hwrite : made.write path document.bytes = .ok fs') :
    s.Filed fs [(document, .ok path)] fs' := by
  obtain ⟨hextends, hlies, loc, hresolve, helsewhere⟩ :=
    liesIn_of_write (isName_plainName document.fileName) hpath hwrite
  have honly : ∀ {other : Document} {path' : Path},
      (other, .ok path') ∈ ([(document, .ok path)] : List Call) →
        other = document ∧ path' = path := by
    intro other path' hmem
    simpa using hmem
  refine ⟨hmade.keeps.extends.trans hextends, ?_, ?_, fun other => ?_⟩
  · intro other path' hmem
    obtain ⟨rfl, rfl⟩ := honly hmem
    exact hlies
  · intro before other path' after hcalls _
    have hmem : (other, .ok path') ∈ before ++ (other, .ok path') :: after :=
      List.mem_append_right before List.mem_cons_self
    rw [← hcalls] at hmem
    obtain ⟨rfl, rfl⟩ := honly hmem
    exact FileSystem.read_write hwrite
  · by_cases hother : other = loc
    · exact .inl ⟨document, path, List.mem_singleton_self _, hother ▸ hresolve⟩
    · have hsame := helsewhere other hother
      rcases hmade.entry other with hentry | hentry
      · exact .inr (.inl (hsame.trans hentry))
      · exact .inr (.inr ⟨hentry.missing, hsame.trans hentry.made,
          hextends.onTheWay hentry.onTheWay⟩)

variable {σ : Type} [Host (StateM σ)] {disk : σ → FileSystem}

/-- A save is answered with a path that it has written, or with an error and then no file has
changed. -/
theorem save_filed (h : Host.HasDisk disk) (s : Saver) (document : Document) (t : σ) :
    ∃ answer t', (s.save document : StateM σ _).run t = (answer, t') ∧
      s.Filed (disk t) [(document, answer)] (disk t') := by
  obtain ⟨answer, t', made, hrun, hmade, ⟨⟨e, rfl⟩, hdisk⟩ | ⟨rfl, hwrite⟩⟩ :=
    save_cases h s document t
  · exact ⟨_, t', hrun, hdisk ▸ filed_of_error hmade document e⟩
  · exact ⟨_, t', hrun, filed_of_write hmade rfl hwrite⟩

/-! ### Several saves -/

/-- A run of saves one after another, with what each of them has left. -/
inductive Course (disk : σ → FileSystem) (s : Saver) : σ → List Call → σ → Prop
  | none (t : σ) : Course disk s t [] t
  | more {t next last : σ} {document : Document} {answer : Except Protocol.Error Path}
      {rest : List Call} (hrun : (s.save document : StateM σ _).run t = (answer, next))
      (hfiled : s.Filed (disk t) [(document, answer)] (disk next))
      (hrefused : ∀ e, answer = .error e → ∀ loc, SameOrMade s.dir (disk t) (disk next) loc)
      (hrest : Course disk s next rest last) : Course disk s t ((document, answer) :: rest) last

/-- What comes of several saves is said by what comes of each of them. -/
theorem Course.filed {t t' : σ} {calls : List Call} (h : Course disk s t calls t') :
    s.Filed (disk t) calls (disk t') := by
  induction h with
  | none t => exact filed_nil s (disk t)
  | more _ hfiled _ _ ih => exact hfiled.cons ih

/-- **A saver keeps documents as a map does**, on every disk and whatever is refused. -/
theorem saves_filed (h : Host.HasDisk disk) (s : Saver) (documents : List Document) (t : σ) :
    ∃ (calls : List Call) (t' : σ), calls.map Prod.fst = documents ∧
      (documents.mapM s.save : StateM σ _).run t = (calls.map Prod.snd, t') ∧
      s.Course disk t calls t' ∧ s.Filed (disk t) calls (disk t') := by
  induction documents generalizing t with
  | nil => exact ⟨[], t, rfl, rfl, .none t, filed_nil s (disk t)⟩
  | cons document documents ih =>
    obtain ⟨answer, next, hrun, hfiled⟩ := save_filed h s document t
    obtain ⟨calls, t', hcalls, hruns, hcourse, -⟩ := ih next
    have hrefused : ∀ e, answer = .error e → ∀ loc, SameOrMade s.dir (disk t) (disk next) loc := by
      rintro e rfl loc
      exact (hfiled.entry loc).resolve_left (by simp)
    have hall := Course.more hrun hfiled hrefused hcourse
    refine ⟨(document, answer) :: calls, t', by simp [hcalls], ?_, hall, hall.filed⟩
    rw [List.mapM_cons, run_bind_of_run hrun, run_bind_of_run hruns]
    rfl

/-! ### A pile of documents

Of four documents two get the same name, and one gets a name that is refused. -/

/-- A disk with one file on it. -/
def desk : Rehearsal where
  files := { entries := [([['k']], .file [0])], here := [] }
  date := (Date.of? 2024 4 3).get rfl

/-- A saver whose directory is missing, as is another one on the way to it. -/
def cabinet : Saver where
  dir := ⟨"a/../out"⟩

/-- Documents of which the third gets the name of the first, and the last one gets dots. -/
def pile : List Document :=
  [⟨[1], Document.pdfMimeType, "x/p.pdf"⟩, ⟨[2], Document.pdfMimeType, ""⟩,
    ⟨[3], Document.pdfMimeType, " p.pdf"⟩, ⟨[4], Document.pdfMimeType, "x/ .."⟩]

theorem saves_filed_pile :
    (∃ (calls : List Call) (r : Rehearsal), calls.map Prod.fst = pile ∧
      (pile.mapM cabinet.save : StateM Rehearsal _).run desk = (calls.map Prod.snd, r) ∧
      cabinet.Course Rehearsal.files desk calls r ∧ cabinet.Filed desk.files calls r.files) ∧
    let run := (pile.mapM cabinet.save : StateM Rehearsal _).run desk
    run.1 = [.ok ⟨"a/../out/p.pdf"⟩, .ok ⟨"a/../out/download"⟩, .ok ⟨"a/../out/p.pdf"⟩,
      .error (.file .isDirectory)] ∧
    run.2.files.read ⟨"a/../out/p.pdf"⟩ = .ok [3] ∧
    run.2.files.read ⟨"out/download"⟩ = .ok [2] ∧
    run.2.files.read ⟨"k"⟩ = .ok [0] ∧
    run.2.files.isDirectory ⟨"a"⟩ = true :=
  ⟨saves_filed Rehearsal.hasDisk_files cabinet pile desk, by decide +kernel⟩

end Saver

end Commissioning
