import Commissioning.Proofs.Files.Writing
import Commissioning.Proofs.Rehearsal
import Commissioning.Saver

set_option autoImplicit false

/-! # Hosts with a disk

What a host does with files is what comes of a disk. What a save does there follows from three of
its operations (`Saver.save_cases`). -/

namespace Commissioning

open FileSystem (MadeAlong)

/-- Whether a host keeps its files on a disk. It may refuse an operation for reasons of its own; no
file is touched then, but of the directories some may have been made. -/
structure Host.HasDisk {σ : Type} [Host (StateM σ)] (disk : σ → FileSystem) : Prop where
  makeDirectories : ∀ path t,
    MadeAlong path (disk t) (disk ((Host.makeDirectories path : StateM σ _).run t).2)
  writeFile : ∀ path bytes t t' answer,
    (Host.writeFile path bytes : StateM σ _).run t = (answer, t') →
      answer = .ok () ∧ (disk t).write path bytes = .ok (disk t') ∨
        (∃ e, answer = .error e) ∧ disk t' = disk t
  log : ∀ event t, disk ((Host.log event : StateM σ _).run t).2 = disk t

/-- The files of a rehearsal are its disk. -/
theorem Rehearsal.hasDisk_files : Host.HasDisk Rehearsal.files where
  makeDirectories path r := FileSystem.madeAlong_makeDirectories r.files path
  writeFile path bytes r r' answer hrun := by
    cases hwrite : r.files.write path bytes with
    | ok files =>
      rw [run_writeFile hwrite] at hrun
      cases hrun
      exact .inl ⟨rfl, rfl⟩
    | error e =>
      rw [run_writeFile_of_error hwrite] at hrun
      cases hrun
      exact .inr ⟨⟨e, rfl⟩, rfl⟩
  log _ _ := rfl

/-- **A save makes directories**, and then it is answered with the path that has been written, or
with an error. -/
theorem Saver.save_cases {σ : Type} [Host (StateM σ)] {disk : σ → FileSystem}
    (h : Host.HasDisk disk) (s : Saver) (document : Document) (t : σ) :
    ∃ answer t' made, (s.save document : StateM σ _).run t = (answer, t') ∧
      MadeAlong s.dir (disk t) made ∧
      ((∃ e, answer = .error e) ∧ disk t' = made ∨
        answer = .ok (s.target document.fileName) ∧
          made.write (s.target document.fileName) document.bytes = .ok (disk t')) := by
  have hmade := h.makeDirectories s.dir t
  obtain ⟨⟨answer, next⟩, hmake⟩ :
      ∃ run, (Host.makeDirectories s.dir : StateM σ _).run t = run := ⟨_, rfl⟩
  rw [hmake] at hmade
  rw [save, run_bind_of_run hmake]
  cases answer with
  | error e => exact ⟨_, next, _, rfl, hmade, .inl ⟨⟨_, rfl⟩, rfl⟩⟩
  | ok =>
    obtain ⟨⟨answer, last⟩, hwrite⟩ :
        ∃ run, (Host.writeFile (s.target document.fileName) document.bytes : StateM σ _).run next
          = run := ⟨_, rfl⟩
    simp only
    rw [run_bind_of_run hwrite]
    obtain ⟨rfl, hwritten⟩ | ⟨⟨e, rfl⟩, hsame⟩ := h.writeFile _ _ _ _ _ hwrite
    · -- The log leaves the disk as it is with the file written.
      rw [← h.log (saved (s.target document.fileName) document) last] at hwritten
      exact ⟨_, _, _, rfl, hmade, .inr ⟨rfl, hwritten⟩⟩
    · exact ⟨_, last, _, rfl, hmade, .inl ⟨⟨_, rfl⟩, hsame⟩⟩

end Commissioning
