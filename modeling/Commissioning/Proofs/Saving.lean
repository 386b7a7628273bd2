import Commissioning.Proofs.Disk
import Commissioning.Proofs.Downloader.Effects

set_option autoImplicit false

/-! # Two downloads into one directory

What downloads leave on a disk follows from what they hand to the saver (`leaves_of_download`). Two
of them that save something save it at the same path exactly when they do so on the same day and the
saver keeps the same of what stands in front of the date; otherwise both files are there afterwards,
each with its own bytes (`saved_apart`). -/

namespace Commissioning

/-! ## What a save leaves -/

namespace Saver

/-- What may come of a save: directories are made, and then the file is written or it is not. -/
inductive Leaves (s : Saver) (fs : FileSystem) (document : Document) :
    Except Protocol.Error Path → FileSystem → Prop
  | refused (made : FileSystem) (reason : Protocol.Error) (hkept : FileSystem.Keeps fs made) :
      Leaves s fs document (.error reason) made
  | written (made written : FileSystem) (path : Path) (hpath : path = s.target document.fileName)
      (hkept : FileSystem.Keeps fs made)
      (hwrite : made.write path document.bytes = .ok written) :
      Leaves s fs document (.ok path) written

/-- What may come of several saves, one after another. -/
inductive LeavesAll (s : Saver) :
    FileSystem → List (Document × Except Protocol.Error Path) → FileSystem → Prop
  | none (fs : FileSystem) : LeavesAll s fs [] fs
  | more {fs next last : FileSystem} {document : Document} {answer : Except Protocol.Error Path}
      {rest : List (Document × Except Protocol.Error Path)}
      (hfirst : s.Leaves fs document answer next) (hrest : LeavesAll s next rest last) :
      LeavesAll s fs ((document, answer) :: rest) last

theorem leavesAll_singleton {s : Saver} {fs last : FileSystem} {document : Document}
    {answer : Except Protocol.Error Path} :
    s.LeavesAll fs [(document, answer)] last ↔ s.Leaves fs document answer last := by
  constructor
  · intro h
    cases h with
    | more hfirst hrest =>
      cases hrest
      exact hfirst
  · exact fun h => .more h (.none last)

/-- A document that is saved is written at its target. -/
theorem Leaves.of_ok {s : Saver} {fs fs' : FileSystem} {document : Document} {path : Path}
    (h : s.Leaves fs document (.ok path) fs') :
    path = s.target document.fileName ∧
      ∃ made, FileSystem.Keeps fs made ∧ made.write path document.bytes = .ok fs' := by
  cases h with
  | written made _ _ hpath hkept hwrite => exact ⟨hpath, made, hkept, hwrite⟩

theorem leaves_save {τ : Type} [Host (StateM τ)] {drive : τ → FileSystem}
    (h : Host.HasDisk drive) (s : Saver) (document : Document) (t : τ) :
    ∃ answer t', (s.save document : StateM τ _).run t = (answer, t') ∧
      s.Leaves (drive t) document answer (drive t') := by
  obtain ⟨answer, t', made, hrun, hmade, ⟨⟨e, rfl⟩, hdrive⟩ | ⟨rfl, hwrite⟩⟩ :=
    save_cases h s document t
  · exact ⟨_, t', hrun, hdrive ▸ .refused made e hmade.keeps⟩
  · exact ⟨_, t', hrun, .written made _ _ rfl hmade.keeps hwrite⟩

end Saver

/-! ## What downloads leave -/

namespace Downloader

/-- Whether a downloader saves into a directory on a disk as a saver does on a host with that disk,
and nothing else that it does has an effect there. The service, the notifier, the log and the clock
may have states of their own. -/
structure SavesInto {σ τ : Type} [Host (StateM τ)] (disk : σ → FileSystem)
    (drive : τ → FileSystem) (dir : Path) (d : Downloader (StateM σ)) : Prop where
  hasDisk : Host.HasDisk drive
  save : ∀ document s, ∃ t, drive t = disk s ∧
    ((d.save document).run s).1 = (((Saver.mk dir).save document : StateM τ _).run t).1 ∧
    disk ((d.save document).run s).2
      = drive (((Saver.mk dir).save document : StateM τ _).run t).2
  ask : ∀ request s, disk ((d.ask request).run s).2 = disk s
  notify : ∀ notification s, disk ((d.notify notification).run s).2 = disk s
  log : ∀ event s, disk ((d.log event).run s).2 = disk s
  today : ∀ s, disk (d.today.run s).2 = disk s

variable {σ τ : Type} [Host (StateM τ)] {disk : σ → FileSystem} {drive : τ → FileSystem}
  {dir : Path} {d : Downloader (StateM σ)}

theorem SavesInto.leaves (h : SavesInto disk drive dir d) {document : Document} {s s' : σ}
    {answer : Except Protocol.Error Path} (hrun : (d.save document).run s = (answer, s')) :
    (Saver.mk dir).Leaves (disk s) document answer (disk s') := by
  obtain ⟨t, hdrive, hanswer, hdisk⟩ := h.save document s
  obtain ⟨answer', t', hsave, hleaves⟩ := (Saver.mk dir).leaves_save h.hasDisk document t
  rw [hrun, hsave] at hanswer hdisk
  rw [← hdrive, show answer = answer' from hanswer, show disk s' = drive t' from hdisk]
  exact hleaves

/-- What calls do to the disk is what the saves among them do. -/
theorem SavesInto.leavesAll (h : SavesInto disk drive dir d) {effects : List Effect} {s s' : σ}
    (hleads : d.Leads s effects s') :
    (Saver.mk dir).LeavesAll (disk s) (saves effects) (disk s') := by
  induction hleads with
  | none s => exact .none (disk s)
  | @more s next last effect rest hfirst _ ih =>
    -- Of the five calls only a save has an effect on the disk.
    cases effect with
    | save document answer => exact .more (h.leaves hfirst) ih
    | ask request answer =>
      have hdisk := h.ask request s
      rw [show (d.ask request).run s = (answer, next) from hfirst] at hdisk
      exact hdisk ▸ ih
    | readDate date =>
      have hdisk := h.today s
      rw [show d.today.run s = (date, next) from hfirst] at hdisk
      exact hdisk ▸ ih
    | log event =>
      have hdisk := h.log event s
      rw [show (d.log event).run s = ((), next) from hfirst] at hdisk
      exact hdisk ▸ ih
    | notify notification =>
      have hdisk := h.notify notification s
      rw [show (d.notify notification).run s = ((), next) from hfirst] at hdisk
      exact hdisk ▸ ih

/-! ## Two downloads -/

/-- What the record of a download shows that has saved a document: the bytes of the answer's
payload, a date, and the path that the saver gave. -/
structure HasSaved (stem entity : String) (id : Protocol.Id) (trace : List Effect) (date : Date)
    (bytes : List UInt8) (path : Path) : Prop where
  asked : ∃ payload, requests trace = [(⟨id⟩, .ok payload)] ∧ Payload.decode payload = .ok bytes
  dated : dates trace = [date]
  saved : saves trace
    = [(⟨bytes, "application/pdf", Document.protocolFileName stem entity date⟩, .ok path)]

/-- A recorded download that has saved something, and the disk before and after. -/
theorem SavesInto.hasSaved (h : SavesInto disk drive dir d) {entity fileName : String}
    {id : Protocol.Id} {path : Path} {size : Nat} {trace : List Effect} {s s' : σ}
    (hrun : ((d.recorded.download entity id).run []).run s
      = ((.saved fileName path size, trace), s')) :
    ∃ date bytes made, HasSaved d.stem entity id trace date bytes path ∧
      path = (Saver.mk dir).target (Document.protocolFileName d.stem entity date) ∧
      FileSystem.Keeps (disk s) made ∧ made.write path bytes = .ok (disk s') := by
  obtain ⟨outcome, trace', s'', -, hrecorded, hcourse, hleads⟩ := course_of_download d entity id s
  rw [hrun] at hrecorded
  cases hrecorded
  have hleaves := h.leavesAll hleads
  cases hcourse with
  | saved payload date bytes path hdecode =>
    obtain ⟨hpath, made, hkept, hwrite⟩ := (Saver.leavesAll_singleton.mp hleaves).of_ok
    exact ⟨date, bytes, made, ⟨⟨payload, rfl, hdecode⟩, rfl, rfl⟩, hpath, hkept, hwrite⟩

/-- What two downloads that have saved something leave, one after the other. -/
structure SavedApart (stem entity entity' : String) (date date' : Date) (path path' : Path)
    (bytes bytes' : List UInt8) (fs : FileSystem) : Prop where
  /-- The paths are the same exactly when the days are, and the saver keeps the same of the names
  in front of the date. -/
  path_iff : path = path' ↔ date = date' ∧
    Saver.keptPart (Saver.label stem entity) = Saver.keptPart (Saver.label stem entity')
  /-- For entities without a slash that is when the entities are the same. -/
  path_iff_of_plain : '/' ∉ entity.toList → '/' ∉ entity'.toList →
    (path = path' ↔ entity = entity' ∧ date = date')
  /-- At paths that differ both files are there, each with its own bytes. -/
  kept : path ≠ path' → fs.read path = .ok bytes ∧ fs.read path' = .ok bytes'

/-- **No download writes over another one that is saved elsewhere**, and which are saved at the same
path is said by their entities and dates. -/
theorem saved_apart (h : SavesInto disk drive dir d) {entity entity' fileName fileName' : String}
    {id id' : Protocol.Id} {path path' : Path} {size size' : Nat} {trace trace' : List Effect}
    {s₀ s₁ s₂ s₃ : σ}
    (hfirst : ((d.recorded.download entity id).run []).run s₀
      = ((.saved fileName path size, trace), s₁))
    (hsecond : ((d.recorded.download entity' id').run []).run s₂
      = ((.saved fileName' path' size', trace'), s₃))
    (hbetween : disk s₂ = disk s₁) :
    ∃ date date' bytes bytes', HasSaved d.stem entity id trace date bytes path ∧
      HasSaved d.stem entity' id' trace' date' bytes' path' ∧
      SavedApart d.stem entity entity' date date' path path' bytes bytes' (disk s₃) := by
  obtain ⟨date, bytes, made, hsaved, hpath, -, hwrite⟩ := h.hasSaved hfirst
  obtain ⟨date', bytes', made', hsaved', hpath', hkept', hwrite'⟩ := h.hasSaved hsecond
  rw [hbetween] at hkept'
  have hiff : path = path' ↔
      Saver.keptPart (Saver.label d.stem entity) = Saver.keptPart (Saver.label d.stem entity') ∧
        date = date' := by
    rw [hpath, hpath', Saver.target_inj, Saver.plainName_protocolFileName_inj]
  refine ⟨date, date', bytes, bytes', hsaved, hsaved', ⟨hiff.trans and_comm, ?_, ?_⟩⟩
  · intro hplain hplain'
    rw [hiff, Saver.keptPart_label_inj hplain hplain']
  · intro hne
    -- The first file outlasts the directories that the second save makes, and then its file.
    have hread := hkept'.read (FileSystem.read_write hwrite)
    refine ⟨?_, FileSystem.read_write hwrite'⟩
    rw [hpath, hpath', Saver.target_inj.ne] at hne
    rw [hpath] at hread ⊢
    rw [hpath'] at hwrite'
    exact FileSystem.read_write_of_ne (Saver.isName_plainName _) (Saver.isName_plainName _) hne
      hread hwrite'

/-! ### Two devices on one day

The service has a text for each of two protocols. Devices called by plain names get a file each; of
two whose ids part before a slash the second takes the file of the first. -/

/-- A downloader that saves into a directory, with a service that knows two protocols. -/
def shelf : Downloader (StateM Rehearsal) where
  ask request := pure (.ok (if request.setupProtocolId = .number 1 then "Zmlyc3Q=" else "c2Vjb25k"))
  save := (Saver.mk ⟨"out"⟩).save
  notify _ := pure ()
  log := Host.log
  today := Host.today

/-- A rehearsal with an empty disk. -/
def blankDay : Rehearsal where
  files := { entries := [], here := [] }
  date := (Date.of? 2024 3 7).get rfl

theorem savesInto_shelf : SavesInto Rehearsal.files Rehearsal.files ⟨"out"⟩ shelf where
  hasDisk := Rehearsal.hasDisk_files
  save _ s := ⟨s, rfl, rfl, rfl⟩
  ask _ _ := rfl
  notify _ _ := rfl
  log _ _ := rfl
  today _ := rfl

/-- The shelf's download for an entity. -/
def shelve (entity : String) (id : Protocol.Id) (r : Rehearsal) :
    (Outcome × List Effect) × Rehearsal :=
  ((shelf.recorded.download entity id).run []).run r

theorem shelve_eq {entity : String} {id : Protocol.Id} {r : Rehearsal} {outcome : Outcome}
    (h : (shelve entity id r).1.1 = outcome) :
    ((shelf.recorded.download entity id).run []).run r
      = ((outcome, (shelve entity id r).1.2), (shelve entity id r).2) := by
  rw [← h]
  unfold shelve
  generalize ((shelf.recorded.download entity id).run []).run r = run
  rfl

theorem saved_apart_shelf :
    let first := shelve "E1" (.number 1) blankDay
    let second := shelve "E2" (.number 2) first.2
    ∃ date date' bytes bytes',
      HasSaved "IBN" "E1" (.number 1) first.1.2 date bytes ⟨"out/IBN-E1-07.03.2024.pdf"⟩ ∧
      HasSaved "IBN" "E2" (.number 2) second.1.2 date' bytes' ⟨"out/IBN-E2-07.03.2024.pdf"⟩ ∧
      SavedApart "IBN" "E1" "E2" date date' ⟨"out/IBN-E1-07.03.2024.pdf"⟩
        ⟨"out/IBN-E2-07.03.2024.pdf"⟩ bytes bytes' second.2.files := by
  have hfirst : (shelve "E1" (.number 1) blankDay).1.1
      = .saved "IBN-E1-07.03.2024.pdf" ⟨"out/IBN-E1-07.03.2024.pdf"⟩ 5 := by
    decide +kernel
  have hsecond : (shelve "E2" (.number 2) (shelve "E1" (.number 1) blankDay).2).1.1
      = .saved "IBN-E2-07.03.2024.pdf" ⟨"out/IBN-E2-07.03.2024.pdf"⟩ 6 := by
    decide +kernel
  exact saved_apart savesInto_shelf (shelve_eq hfirst) (shelve_eq hsecond) rfl

/-- Two devices whose ids differ in front of a slash: both downloads are saved on one day, at one
path, and what was saved first is gone. -/
theorem saved_over_shelf :
    let first := (shelf.download "a/E1" (.number 1)).run blankDay
    let second := (shelf.download "b/E1" (.number 2)).run first.2
    first.1 = .saved "IBN-a/E1-07.03.2024.pdf" ⟨"out/E1-07.03.2024.pdf"⟩ 5 ∧
      second.1 = .saved "IBN-b/E1-07.03.2024.pdf" ⟨"out/E1-07.03.2024.pdf"⟩ 6 ∧
      first.2.files.read ⟨"out/E1-07.03.2024.pdf"⟩ = .ok (Text.encodeUtf8 "first") ∧
      second.2.files.read ⟨"out/E1-07.03.2024.pdf"⟩ = .ok (Text.encodeUtf8 "second") := by
  decide +kernel

end Downloader

end Commissioning
