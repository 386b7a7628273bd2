import Commissioning.Proofs.Base64
import Commissioning.Proofs.Disk
import Commissioning.Proofs.Protocol.Reply
import Commissioning.Proofs.Recorded

set_option autoImplicit false

/-! # Delivery

From the answer of a backend to the file on disk nothing is lost: the JSON around the payload, the
blanks inside it, its Base64 and the saver together leave exactly the bytes that the backend has
encoded (`Session.download_delivers`). The host may be any that has a disk, as long as what it is
asked for goes well (`Call.WentWell`). -/

namespace Commissioning

open Json.Grammar Recorded

variable {σ : Type} {payload : String}

/-! ## What goes well -/

/-- Whether a response says that all is well and brings a payload, however its body is written. -/
structure Http.Response.Brings (response : Http.Response) (payload : String) : Prop where
  status : Http.isSuccess response.status = true
  whole : response.isWhole = true
  body : ∃ answer : Item Term, response.body = answer.bytes ∧
    Protocol.CarriesPayload answer.term payload

/-- Whether a call has gone well: a request has been answered with a payload, a directory has been
made, or a file has been written. -/
def Call.WentWell (payload : String) : Call → Prop
  | exchange _ answer => ∃ response, answer = some response ∧ response.Brings payload
  | makeDirectories _ answer => answer = .ok ()
  | writeFile _ _ answer => answer = .ok ()
  | _ => True

/-! ## The parts of a download -/

theorem Downloader.run_steps_succ {σ : Type} {d : Downloader (StateM σ)} {stage next : Stage}
    {s s' : σ} (h : (d.step stage).run s = (next, s')) (n : Nat) :
    (d.steps (n + 1) stage).run s = (d.steps n next).run s' :=
  run_bind_of_run h

section

variable [Host (StateM σ)]

/-- One request, and what its answer says. -/
theorem Service.runs_ask (service : Service) (request : Protocol.Request) (r : Recorded σ) :
    ∃ callId answer r', Runs (service.ask request) r (service.payloadOf answer)
      [.freshId callId, .log (service.sending callId request),
        .exchange (service.request callId request) answer] r' := by
  have hid := runs_doing (Host.freshId : StateM σ _) Call.freshId r
  have hlog := fun callId => runs_doing (Host.log (service.sending callId request) : StateM σ _)
    (fun _ => Call.log (service.sending callId request))
  have hexchange := fun callId =>
    runs_doing (Host.exchange (service.request callId request) : StateM σ _)
      (Call.exchange (service.request callId request))
  exact ⟨_, _, _, hid.bind ((hlog _ _).bind ((hexchange _ _).bind_pure rfl))⟩

theorem Service.payloadOf_of_wentWell {service : Service} {request : Http.Request}
    {answer : Option Http.Response} (h : (Call.exchange request answer).WentWell payload) :
    service.payloadOf answer = .ok payload := by
  obtain ⟨response, rfl, hstatus, hwhole, body, hbody, hcarries⟩ := h
  exact Protocol.payloadOfResponse_eq_ok hstatus hwhole hbody hcarries

/-- The calls of a save that goes well. -/
def Call.ofSave (s : Saver) (document : Document) : List Call :=
  [.makeDirectories s.dir (.ok ()),
    .writeFile (s.target document.fileName) document.bytes (.ok ()),
    .log (Saver.saved (s.target document.fileName) document)]

/-- A save whose calls go well has written the document. -/
theorem Saver.runs_save {disk : σ → FileSystem} (h : Host.HasDisk disk) (s : Saver)
    (document : Document) (r : Recorded σ) :
    ∃ answer added r', Runs (s.save document) r answer added r' ∧
      ((∀ call ∈ added, call.WentWell payload) →
        answer = .ok (s.target document.fileName) ∧ added = Call.ofSave s document ∧
          (disk r'.base).read (s.target document.fileName) = .ok document.bytes) := by
  obtain ⟨made, between, hmake⟩ : ∃ made between,
      Runs (Host.makeDirectories s.dir : StateM (Recorded σ) _) r made
        [.makeDirectories s.dir made] between := ⟨_, _, runs_doing _ _ _⟩
  cases made with
  | error e =>
    refine ⟨_, _, _, hmake.bind_pure rfl, fun hwell => ?_⟩
    exact absurd (hwell _ (.head _)) nofun
  | ok =>
    obtain ⟨written, last, hwrite, hrun⟩ : ∃ written last,
        Runs (Host.writeFile (s.target document.fileName) document.bytes : StateM (Recorded σ) _)
          between written [.writeFile (s.target document.fileName) document.bytes written] last ∧
        (Host.writeFile (s.target document.fileName) document.bytes : StateM σ _).run between.base
          = (written, last.base) := ⟨_, _, runs_doing _ _ _, rfl⟩
    cases written with
    | error e =>
      refine ⟨_, _, _, hmake.bind (hwrite.bind_pure rfl), fun hwell => ?_⟩
      exact absurd (hwell _ (.tail _ (.head _))) nofun
    | ok =>
      have hlog := runs_doing (Host.log (saved (s.target document.fileName) document) : StateM σ _)
        (fun _ => Call.log (saved (s.target document.fileName) document)) last
      refine ⟨_, _, _, hmake.bind (hwrite.bind (hlog.bind_pure rfl)), fun _ => ⟨rfl, rfl, ?_⟩⟩
      obtain ⟨-, hwritten⟩ | ⟨⟨e, herror⟩, -⟩ := h.writeFile _ _ _ _ _ hrun
      · -- The log leaves the disk as it is with the file written.
        rw [← h.log (saved (s.target document.fileName) document) last.base] at hwritten
        exact FileSystem.read_write hwritten
      · cases herror

end

/-! ## The whole of it -/

namespace Session

/-- The name that a session gives to the protocol of an entity on a day. -/
def nameOn (s : Session) (entity : String) (date : Date) : String :=
  Document.protocolFileName s.config.fileNameStem entity date

/-- Where a session saves the protocol of an entity on a day. -/
def pathOn (s : Session) (entity : String) (date : Date) : Path :=
  (Saver.mk s.config.downloadDir).target (s.nameOn entity date)

/-- A document whose bytes a payload decodes to. -/
def documentOf (bytes : List UInt8) (fileName : String) : Document where
  bytes := bytes
  mimeType := Document.pdfMimeType
  fileName := fileName

variable [Host (StateM σ)] (notify : Notification → StateM (Recorded σ) Unit)

/-- The first step asks. -/
theorem runs_ready (s : Session) (entity : String) (id : Protocol.Id) (r : Recorded σ) :
    ∃ callId answer r', Runs ((s.downloader notify).step (.ready entity id)) r
      (.answered entity (s.service.payloadOf answer))
      [.log (Downloader.starting entity id), .freshId callId, .log (s.service.sending callId ⟨id⟩),
        .exchange (s.service.request callId ⟨id⟩) answer] r' := by
  obtain ⟨logged, hlog⟩ : ∃ logged,
      Runs (Host.log (Downloader.starting entity id) : StateM (Recorded σ) Unit) r ()
        [.log (Downloader.starting entity id)] logged := ⟨_, runs_doing _ (fun _ => Call.log _) _⟩
  obtain ⟨callId, answer, r', hask⟩ := s.service.runs_ask ⟨id⟩ logged
  exact ⟨callId, answer, r', hlog.bind (hask.bind_pure rfl)⟩

/-- The second step reads the date and decodes. -/
theorem runs_answered (s : Session) (entity : String) {bytes : List UInt8}
    (hdecode : Payload.decode payload = .ok bytes) (r : Recorded σ) :
    ∃ date r', Runs ((s.downloader notify).step (.answered entity (.ok payload))) r
      (.decoded (documentOf bytes (s.nameOn entity date))) [.today date] r' := by
  obtain ⟨date, r', hname⟩ : ∃ date r', Runs ((s.downloader notify).fileNameFor entity) r
      (s.nameOn entity date) [.today date] r' :=
    ⟨_, _, (runs_doing (Host.today : StateM σ _) Call.today r).bind_pure rfl⟩
  have hdocument : Document.ofPayload payload (s.nameOn entity date)
      = .ok (documentOf bytes (s.nameOn entity date)) := by
    unfold Document.ofPayload
    rw [hdecode]
    rfl
  exact ⟨date, r', hname.bind_pure (by rw [hdocument])⟩

/-- The third step saves. -/
theorem runs_decoded {disk : σ → FileSystem} (h : Host.HasDisk disk) (s : Session)
    (document : Document) (r : Recorded σ) :
    ∃ stage added r', Runs ((s.downloader notify).step (.decoded document)) r stage added r' ∧
      ((∀ call ∈ added, call.WentWell payload) →
        stage = .finished (.saved document.fileName
          ((Saver.mk s.config.downloadDir).target document.fileName) document.size) ∧
          added = Call.ofSave (Saver.mk s.config.downloadDir) document ∧
          (disk r'.base).read ((Saver.mk s.config.downloadDir).target document.fileName)
            = .ok document.bytes) := by
  obtain ⟨answer, added, r', hsave, hgood⟩ :=
    (Saver.mk s.config.downloadDir).runs_save h document r
  cases answer with
  | error e => exact ⟨_, added, r', hsave.bind_pure rfl, fun hwell => nomatch (hgood hwell).1⟩
  | ok path =>
    refine ⟨_, added, r', hsave.bind_pure rfl, fun hwell => ?_⟩
    obtain ⟨hpath, hadded, hread⟩ := hgood hwell
    exact ⟨by rw [Except.ok.inj hpath], hadded, hread⟩

/-- What has been recorded stays recorded in the steps that are left. -/
theorem calls_subset_of_steps {display : Notification → StateM σ Unit} {s : Session} {n : Nat}
    {stage : Downloader.Stage} {r : Recorded σ} {final : Downloader.Stage × Recorded σ}
    (h : ((s.downloader (Recorded.notify display)).steps n stage).run r = final) :
    r.calls ⊆ final.2.calls :=
  h ▸ (closed_adds.steps (fun _ => adds_doing _ _) s n stage r).subset

/-- The four steps of a download, where everything goes well: from the answer to the file. -/
theorem run_steps_of_wentWell {disk : σ → FileSystem} (h : Host.HasDisk disk)
    (display : Notification → StateM σ Unit) (s : Session) (entity : String) (id : Protocol.Id)
    {bytes : List UInt8} (hdecode : Payload.decode payload = .ok bytes) (r : Recorded σ)
    (hwell : ∀ call ∈ (((s.downloader (Recorded.notify display)).steps 4 (.ready entity id)).run
      r).2.calls, call.WentWell payload) :
    ∃ callId response date last,
      ((s.downloader (Recorded.notify display)).steps 4 (.ready entity id)).run r
        = (.finished (.saved (s.nameOn entity date) (s.pathOn entity date) bytes.length), last) ∧
      (disk last.base).read (s.pathOn entity date) = .ok bytes ∧
      last.calls = r.calls ++
        [.log (Downloader.starting entity id), .freshId callId,
          .log (s.service.sending callId ⟨id⟩),
          .exchange (s.service.request callId ⟨id⟩) (some response), .today date] ++
        Call.ofSave (Saver.mk s.config.downloadDir) (documentOf bytes (s.nameOn entity date)) := by
  generalize hfinal : ((s.downloader (Recorded.notify display)).steps 4 (.ready entity id)).run r
    = final at hwell ⊢
  obtain ⟨callId, answer, asked, hready⟩ := s.runs_ready (Recorded.notify display) entity id r
  rw [Downloader.run_steps_succ hready.run 3] at hfinal
  have hexchange := hwell (.exchange (s.service.request callId ⟨id⟩) answer)
    (calls_subset_of_steps hfinal (by simp [hready.calls]))
  rw [Service.payloadOf_of_wentWell hexchange] at hfinal
  obtain ⟨response, rfl, -⟩ := hexchange
  obtain ⟨date, dated, hanswered⟩ :=
    s.runs_answered (Recorded.notify display) entity hdecode asked
  rw [Downloader.run_steps_succ hanswered.run 2] at hfinal
  obtain ⟨stage, added, last, hdecoded, hgood⟩ := runs_decoded (Recorded.notify display) h s
    (documentOf bytes (s.nameOn entity date)) dated
  rw [Downloader.run_steps_succ hdecoded.run 1] at hfinal
  obtain ⟨rfl, rfl, hread⟩ := hgood fun call hcall =>
    hwell call (calls_subset_of_steps hfinal (by simp [hdecoded.calls, hcall]))
  -- The fourth step has nothing left to do.
  obtain rfl := hfinal
  refine ⟨callId, response, date, last, rfl, hread, ?_⟩
  rw [hdecoded.calls, hanswered.calls, hready.calls]
  simp

/-- **A document is delivered as it was encoded.** Whatever the bytes, however their Base64 is
padded and broken up by blanks, and however the answer around it is written: when everything that
the host is asked for goes well, one request is sent, the file that the download names holds those
bytes, and nobody is told of a failure. -/
theorem download_delivers {disk : σ → FileSystem} (h : Host.HasDisk disk)
    (display : Notification → StateM σ Unit) (s : Session) (entity : String) (id : Protocol.Id)
    {bytes : List UInt8} (htext : Base64.IsTextOf (Text.encodeUtf8 (Payload.strip payload)) bytes)
    {start : σ} {outcome : Outcome} {last : Recorded σ}
    (hrun : ((s.downloader (Recorded.notify display)).download entity id).run ⟨start, []⟩
      = (outcome, last))
    (hwell : ∀ call ∈ last.calls, call.WentWell payload) :
    ∃ callId response date,
      outcome = .saved (s.nameOn entity date) (s.pathOn entity date) bytes.length ∧
      (disk last.base).read (s.pathOn entity date) = .ok bytes ∧
      last.calls.filter (!·.isLog) =
        [.freshId callId, .exchange (s.service.request callId ⟨id⟩) (some response), .today date,
          .makeDirectories s.config.downloadDir (.ok ()),
          .writeFile (s.pathOn entity date) bytes (.ok ())] := by
  have hdecode : Payload.decode payload = .ok bytes := Base64.decode_of_isTextOf htext
  have hlast : (((s.downloader (Recorded.notify display)).steps 4 (.ready entity id)).run
      ⟨start, []⟩).2 = last := congrArg Prod.snd hrun
  obtain ⟨callId, response, date, last', hsteps, hread, hcalls⟩ :=
    run_steps_of_wentWell h display s entity id hdecode ⟨start, []⟩ (hlast ▸ hwell)
  have hdownload : ((s.downloader (Recorded.notify display)).download entity id).run ⟨start, []⟩
      = (.saved (s.nameOn entity date) (s.pathOn entity date) bytes.length, last') :=
    run_bind_of_run hsteps
  obtain ⟨rfl, rfl⟩ := Prod.mk.inj (hrun.symm.trans hdownload)
  refine ⟨callId, response, date, rfl, hread, ?_⟩
  rw [hcalls]
  rfl

/-! ### A document of four bytes

The payload is broken into two lines and has lost half of its padding, and the answer spells the
rest of it with an escape. -/

/-- A session whose backend is called desk. -/
def deskSession : Session where
  config :=
    { endpoint := "https://desk/", downloadDir := ⟨"/protocols"⟩, fileNameStem := "IBN",
      username := none, password := none, views := ["completion"] }
  features := {}
  wizard :=
    { views := ["completion"], position := 0, state := .inProgress, position_lt := by decide }
  service := { endpoint := ⟨"https", some { host := some (.domain "desk") }, "/", none, none⟩ }

/-- An object with a payload. -/
def deskResult : Term :=
  .object [] [
    { name := plainGlyphs ['p', 'a', 'y', 'l', 'o', 'a', 'd']
      item := { term := .text (
        plainGlyphs ['J', 'V', 'B', 'E'] ++ [.short .lineFeed] ++
          plainGlyphs ['R', 'g'] ++
          [.unit ⟨{ value := 0 }, { value := 0 }, { value := 3 }, { value := 13 }⟩]) } }]

/-- An answer with a member that nobody asked for, an error of null and a result. -/
def deskAnswer : Item Term where
  before := [.lineFeed]
  term := .object [.space] [
    { name := plainGlyphs ['i', 'd'], item := { term := .array [] [] } },
    { name := plainGlyphs ['e', 'r', 'r', 'o', 'r'], item := { term := .null } },
    { before := [.space], name := plainGlyphs ['r', 'e', 's', 'u', 'l', 't'],
      item := { before := [.space], term := deskResult } }]

/-- A rehearsal with an empty disk and a backend that gives one answer over HTTPS. -/
def deskRehearsal : Rehearsal where
  files := { entries := [], here := [] }
  date := ⟨2024, 3, 5, by decide, by decide⟩
  server := some
    { scheme := "https", host := .domain "desk", port := 443,
      responses := [some { status := 200, body := deskAnswer.bytes }] }

theorem carriesPayload_deskAnswer : Protocol.CarriesPayload deskAnswer.term "JVBE\nRg=" := by
  refine ⟨[("id", .array [] []), ("error", .null), ("result", deskResult)], rfl, by decide, ?_,
    deskResult, [("payload", .text "JVBE\nRg=")], ?_, by decide, rfl, ?_⟩
  · simp
  · simp
  · simp

/-- What is asked for first, with an id that no request has had. -/
def deskRequest : Http.Request :=
  deskSession.service.request (Rehearsal.callId 0) { setupProtocolId := .number 7 }

/-- A download at the desk that nobody is told about. -/
def deskDownload : Outcome × Recorded Rehearsal :=
  ((deskSession.downloader (Recorded.notify fun _ => pure ())).download "edge0" (.number 7)).run
    ⟨deskRehearsal, []⟩

theorem calls_deskDownload :
    deskDownload.2.calls.filter (!·.isLog) =
      [.freshId (Rehearsal.callId 0),
        .exchange deskRequest (some { status := 200, body := deskAnswer.bytes }),
        .today deskRehearsal.date, .makeDirectories ⟨"/protocols"⟩ (.ok ()),
        .writeFile ⟨"/protocols/IBN-edge0-05.03.2024.pdf"⟩ [37, 80, 68, 70] (.ok ())] := by
  decide +kernel

theorem wentWell_deskDownload :
    ∀ call ∈ deskDownload.2.calls, call.WentWell "JVBE\nRg=" := by
  intro call hcall
  cases hlog : call.isLog with
  | true =>
    cases call with
    | log event => trivial
    | _ => cases hlog
  | false =>
    have hmem : call ∈ deskDownload.2.calls.filter (!·.isLog) := by simp [hcall, hlog]
    rw [calls_deskDownload] at hmem
    simp only [List.mem_cons, List.not_mem_nil, or_false] at hmem
    rcases hmem with rfl | rfl | rfl | rfl | rfl
    · trivial
    · exact ⟨_, rfl, rfl, rfl, deskAnswer, rfl, carriesPayload_deskAnswer⟩
    · trivial
    · rfl
    · rfl

theorem download_delivers_desk :
    ∃ callId response date,
      deskDownload.1
        = .saved (deskSession.nameOn "edge0" date) (deskSession.pathOn "edge0" date) 4 ∧
      deskDownload.2.base.files.read (deskSession.pathOn "edge0" date) = .ok [37, 80, 68, 70] ∧
      deskDownload.2.calls.filter (!·.isLog) =
        [.freshId callId,
          .exchange (deskSession.service.request callId ⟨.number 7⟩) (some response), .today date,
          .makeDirectories ⟨"/protocols"⟩ (.ok ()),
          .writeFile (deskSession.pathOn "edge0" date) [37, 80, 68, 70] (.ok ())] := by
  have htext : Base64.IsTextOf (Text.encodeUtf8 (Payload.strip "JVBE\nRg=")) [37, 80, 68, 70] := by
    unfold Base64.IsTextOf
    decide +kernel
  exact download_delivers Rehearsal.hasDisk_files (fun _ => pure ()) deskSession "edge0"
    (.number 7) htext (Prod.eta deskDownload).symm wentWell_deskDownload

end Session

end Commissioning
