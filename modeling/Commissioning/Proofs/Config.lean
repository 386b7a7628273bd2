import Commissioning.Config.File
import Commissioning.Proofs.Json.Meaning
import Commissioning.Proofs.Setup

set_option autoImplicit false

/-! # What a configuration file says

A configuration file is read as a function of the members of its object (`means_reader`). Two files
that differ in the texts of the endpoint and of the directory for downloads, and in nothing else,
say the same about everything else, and both are accepted or both refused when their endpoints are
(`ofBytes_alike`). -/

namespace Commissioning.Config

open Json Json.Reader Json.Grammar

/-! ## Keys -/

/-- What the key with a name makes of its value. -/
def sense (name : String) (d : Draft) (v : Value) : Option Draft :=
  match name with
  | "endpoint" => v.text?.map fun s => { d with endpoint := some s }
  | "download_dir" => v.text?.map fun s => { d with downloadDir := some s }
  | "file_name_prefix" => v.text?.map fun s => { d with fileNameStem := some s }
  | "username" => (Value.optional? Value.text? v).map fun s => { d with username := some s }
  | "password" => (Value.optional? Value.text? v).map fun s => { d with password := some s }
  | "views" => v.texts?.map fun s => { d with views := some s }
  | _ => none

/-- The configuration that a value is, with the keys of another one where it leaves them out. -/
def ofValue? (base : Config) (v : Value) : Option Config :=
  (recordOf fields sense {} v).map base.merge

theorem means_reader (base : Config) :
    Means nesting (RecordDomain fun _ _ => True) (reader base) (ofValue? base) := by
  have hfields : ∀ f ∈ fields, ∀ d,
      Means (nesting - 1) (fun _ => True) (f.read d) (sense f.name d) := by
    intro f hf d
    have htext := means_textAs (nesting - 1)
    have htexts : Means (nesting - 1) (fun _ => True) texts Value.texts? :=
      means_texts (nesting - 2)
    simp only [fields, List.mem_cons, List.not_mem_nil, or_false] at hf
    rcases hf with rfl | rfl | rfl | rfl | rfl | rfl
    · exact means_ofLens (htext _) _ _ _ _ d
    · exact means_ofLens (htext _) _ _ _ _ d
    · exact means_ofLens (htext _) _ _ _ _ d
    · exact means_ofLens (means_optional (htext _)) _ _ _ _ d
    · exact means_ofLens (means_optional (htext _)) _ _ _ _ d
    · exact means_ofLens htexts _ _ _ _ d
  have hrecord : Means (nesting - 1 + 1) (RecordDomain fun _ _ => True)
      (record "struct Config" fields {}) (recordOf fields sense {}) :=
    means_record hfields _ _
  rw [show nesting - 1 + 1 = nesting from rfl] at hrecord
  exact hrecord.map base.merge

/-- The file with an object is read as what the members of the object say. -/
theorem read_of_parse (base : Config) {text : String} {members : List (String × Value)}
    (h : parse text = .ok (.object members)) :
    ((reader base).read text).toOption = ofValue? base (.object members) :=
  read_means (means_reader base) h ⟨fun _ => by simp, fun _ _ _ _ => trivial⟩

/-! ## Members that a command line replaces -/

/-- Whether a text is a URL that is reached over HTTP. -/
def IsHttp (endpoint : String) : Prop :=
  ∃ url, Url.parse endpoint = .ok url ∧ (url.scheme = "http" ∨ url.scheme = "https")

/-- Whether two members are the same but for the text of a directory for downloads or of an
endpoint, which is one over HTTP in both or in neither. -/
inductive Replaceable : String × Value → String × Value → Prop
  | same (m : String × Value) : Replaceable m m
  | endpoint (e e' : String) (h : IsHttp e ↔ IsHttp e') :
      Replaceable ("endpoint", .text e) ("endpoint", .text e')
  | downloadDir (s s' : String) :
      Replaceable ("download_dir", .text s) ("download_dir", .text s')

namespace Draft

/-- Whether two drafts are the same but for the directory for downloads and for the endpoint. -/
structure Alike (d d' : Draft) : Prop where
  endpoint : Option.Rel (fun e e' => IsHttp e ↔ IsHttp e') d.endpoint d'.endpoint
  downloadDir : d'.downloadDir.isSome = d.downloadDir.isSome
  fileNameStem : d'.fileNameStem = d.fileNameStem
  username : d'.username = d.username
  password : d'.password = d.password
  views : d'.views = d.views

theorem Alike.isSome_endpoint {d d' : Draft} (h : Alike d d') :
    d'.endpoint.isSome = d.endpoint.isSome := by
  have hendpoint := h.endpoint
  generalize d.endpoint = read at hendpoint ⊢
  generalize d'.endpoint = read' at hendpoint ⊢
  cases hendpoint <;> rfl

/-- A key that is read into two drafts is refused for both or goes into both. -/
theorem alike_slot {β : Type} {d d' : Draft} (get : Draft → Option β) (set : Draft → β → Draft)
    (hget : (get d').isSome = (get d).isSome) {outcome outcome' : Option β}
    (hset : Option.Rel (fun b b' => Alike (set d b) (set d' b')) outcome outcome') :
    Option.Rel Alike (if (get d).isSome then none else outcome.map (set d))
      (if (get d').isSome then none else outcome'.map (set d')) := by
  rw [hget]
  split
  · exact .none
  · cases hset with
    | none => exact .none
    | some hset => exact .some hset

theorem rel_self {β : Type} {related : β → β → Prop} (outcome : Option β)
    (h : ∀ b, related b b) : Option.Rel related outcome outcome := by
  cases outcome with
  | none => exact .none
  | some b => exact .some (h b)

/-- A member and one that may stand in its place lead from two drafts that are alike to two such
drafts, or are refused for both. -/
theorem Alike.step {d d' : Draft} (h : Alike d d') {m m' : String × Value}
    (hm : Replaceable m m') :
    Option.Rel Alike (recordStep fields sense d m) (recordStep fields sense d' m') := by
  cases hm with
  | endpoint e e' hsame =>
    exact alike_slot (·.endpoint) (fun d s => { d with endpoint := some s }) h.isSome_endpoint
      (.some { h with endpoint := .some hsame })
  | downloadDir s s' =>
    exact alike_slot (·.downloadDir) (fun d s => { d with downloadDir := some s }) h.downloadDir
      (.some (a := s) (b := s') { h with downloadDir := rfl })
  | same =>
    obtain ⟨name, v⟩ := m
    by_cases hname : name ∈ fields.map (·.name)
    · simp only [fields, Field.ofLens, List.map_cons, List.map_nil, List.mem_cons,
        List.not_mem_nil, or_false] at hname
      rcases hname with rfl | rfl | rfl | rfl | rfl | rfl
      · exact alike_slot (·.endpoint) (fun d s => { d with endpoint := some s })
          h.isSome_endpoint (rel_self v.text? fun s => { h with endpoint := .some Iff.rfl })
      · exact alike_slot (·.downloadDir) (fun d s => { d with downloadDir := some s })
          h.downloadDir (rel_self v.text? fun s => { h with downloadDir := rfl })
      · exact alike_slot (·.fileNameStem) (fun d s => { d with fileNameStem := some s })
          (congrArg _ h.fileNameStem) (rel_self v.text? fun s => { h with fileNameStem := rfl })
      · exact alike_slot (·.username) (fun d s => { d with username := some s })
          (congrArg _ h.username)
          (rel_self (v.optional? Value.text?) fun s => { h with username := rfl })
      · exact alike_slot (·.password) (fun d s => { d with password := some s })
          (congrArg _ h.password)
          (rel_self (v.optional? Value.text?) fun s => { h with password := rfl })
      · exact alike_slot (·.views) (fun d s => { d with views := some s })
          (congrArg _ h.views) (rel_self v.texts? fun s => { h with views := rfl })
    · rw [recordStep_of_not_mem hname, recordStep_of_not_mem hname]
      exact .some h

theorem Alike.steps {d d' : Draft} (h : Alike d d') {members members' : List (String × Value)}
    (hmembers : List.Forall₂ Replaceable members members') :
    Option.Rel Alike (members.foldlM (recordStep fields sense) d)
      (members'.foldlM (recordStep fields sense) d') := by
  induction hmembers generalizing d d' with
  | nil => exact .some h
  | @cons m m' members members' hm _ ih =>
    have hstep := h.step hm
    rw [List.foldlM_cons, List.foldlM_cons]
    generalize recordStep fields sense d m = next at hstep ⊢
    generalize recordStep fields sense d' m' = next' at hstep ⊢
    cases hstep with
    | none => exact .none
    | some hnext => exact ih hnext

end Draft

/-! ## Configurations that differ in what is replaced -/

/-- Whether two configurations are the same but for the directory for downloads and for the
endpoint, which is one over HTTP in both or in neither. -/
structure SameBehind (c c' : Config) : Prop where
  endpoint : c'.HasEndpoint ↔ c.HasEndpoint
  fileNameStem : c'.fileNameStem = c.fileNameStem
  username : c'.username = c.username
  password : c'.password = c.password
  views : c'.views = c.views

theorem Draft.Alike.merge {d d' : Draft} (h : d.Alike d') (base : Config) :
    SameBehind (base.merge d) (base.merge d') where
  endpoint := by
    have hendpoint := h.endpoint
    show IsHttp (d'.endpoint.getD base.endpoint) ↔ IsHttp (d.endpoint.getD base.endpoint)
    generalize d.endpoint = read at hendpoint ⊢
    generalize d'.endpoint = read' at hendpoint ⊢
    cases hendpoint with
    | none => exact Iff.rfl
    | some hsame => exact hsame.symm
  fileNameStem := congrArg (·.getD base.fileNameStem) h.fileNameStem
  username := congrArg (·.getD base.username) h.username
  password := congrArg (·.getD base.password) h.password
  views := congrArg (·.getD base.views) h.views

/-- No key has to be there. -/
theorem missing?_fields (d : Draft) : missing? fields d = none :=
  rfl

theorem ofValue?_alike (base : Config) {members members' : List (String × Value)}
    (h : List.Forall₂ Replaceable members members') :
    Option.Rel SameBehind (ofValue? base (.object members)) (ofValue? base (.object members')) := by
  have hstart : Draft.Alike {} {} := ⟨.none, rfl, rfl, rfl, rfl, rfl⟩
  have hdrafts := hstart.steps h
  simp only [ofValue?, recordOf, missing?_fields, Option.isNone_none]
  generalize members.foldlM (recordStep fields sense) {} = read at hdrafts ⊢
  generalize members'.foldlM (recordStep fields sense) {} = read' at hdrafts ⊢
  cases hdrafts with
  | none => exact .none
  | some hdraft => exact .some (hdraft.merge base)

/-- Such configurations are valid both or neither. -/
theorem SameBehind.validate {c c' : Config} (h : SameBehind c c') :
    c'.validate = .ok () ↔ c.validate = .ok () := by
  rw [validate_eq_ok_iff, validate_eq_ok_iff, h.endpoint, h.views]
  unfold HasStem
  rw [h.fileNameStem]

/-! ## Files -/

/-- A file with an object holds the configuration that its members say, if that is valid. -/
theorem toOption_ofBytes (env : Environment) (path : Path) {text : String}
    {members : List (String × Value)} (h : parse text = .ok (.object members)) :
    (ofBytes env path (.ok (Text.encodeUtf8 text))).toOption
      = (ofValue? (default env) (.object members)).filter fun c => c.validate.isOk := by
  have hread := read_of_parse (default env) h
  unfold ofBytes
  simp only [Text.decodeUtf8_encodeUtf8]
  cases hconfig : (reader (default env)).read text with
  | error e =>
    rw [hconfig] at hread
    rw [← hread]
    rfl
  | ok c =>
    rw [hconfig] at hread
    rw [← hread]
    simp only [Except.toOption, Option.filter_some]
    cases c.validate <;> rfl

/-- **Two files that differ in what is replaced** are both refused, or hold configurations that
differ in it. -/
theorem ofBytes_alike (env : Environment) (path : Path) {text text' : String}
    {members members' : List (String × Value)} (h : parse text = .ok (.object members))
    (h' : parse text' = .ok (.object members'))
    (hmembers : List.Forall₂ Replaceable members members') :
    Option.Rel SameBehind (ofBytes env path (.ok (Text.encodeUtf8 text))).toOption
      (ofBytes env path (.ok (Text.encodeUtf8 text'))).toOption := by
  have hread := ofValue?_alike (default env) hmembers
  rw [toOption_ofBytes env path h, toOption_ofBytes env path h']
  generalize ofValue? (default env) (.object members) = read at hread ⊢
  generalize ofValue? (default env) (.object members') = read' at hread ⊢
  cases hread with
  | none => exact .none
  | @some c c' hsame =>
    have hvalid := hsame.validate
    rw [Option.filter_some, Option.filter_some]
    cases hc : c.validate with
    | ok =>
      rw [hvalid.mpr hc]
      exact .some hsame
    | error fault =>
      cases hc' : c'.validate with
      | ok => exact absurd (hvalid.mp hc') (by simp [hc])
      | error fault' => exact .none

end Commissioning.Config
