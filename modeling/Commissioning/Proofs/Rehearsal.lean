import Commissioning.Rehearsal

set_option autoImplicit false

/-! # Runs on a rehearsal

What a rehearsal answers to the operations that depend on its files and on its server, and what
becomes of it. -/

namespace Commissioning.Rehearsal

variable {r : Rehearsal}

theorem run_exchange {server : Server} (h : r.server = some server) (request : Http.Request) :
    (Host.exchange request : StateM Rehearsal _).run r
      = ((server.answer request).1, { r with server := some (server.answer request).2 }) := by
  simp only [Host.exchange, StateT.run, h]

theorem run_exchange_of_none (h : r.server = none) (request : Http.Request) :
    (Host.exchange request : StateM Rehearsal _).run r = (none, r) := by
  simp only [Host.exchange, StateT.run, h]

theorem run_makeDirectories {path : Path} {files : FileSystem} {fault : Option Files.Error}
    (h : r.files.makeDirectories path = (files, fault)) :
    (Host.makeDirectories path : StateM Rehearsal _).run r
      = (fault.elim (.ok ()) .error, { r with files := files }) := by
  cases fault <;> simp [Host.makeDirectories, StateT.run, h]

theorem run_writeFile {path : Path} {bytes : List UInt8} {files : FileSystem}
    (h : r.files.write path bytes = .ok files) :
    (Host.writeFile path bytes : StateM Rehearsal _).run r
      = (.ok (), { r with files := files }) := by
  simp only [Host.writeFile, StateT.run, h]

theorem run_writeFile_of_error {path : Path} {bytes : List UInt8} {e : Files.Error}
    (h : r.files.write path bytes = .error e) :
    (Host.writeFile path bytes : StateM Rehearsal _).run r = (.error e, r) := by
  simp only [Host.writeFile, StateT.run, h]

end Commissioning.Rehearsal
