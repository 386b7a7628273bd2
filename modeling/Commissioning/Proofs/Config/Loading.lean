import Commissioning.Proofs.Config.Keys
import Commissioning.Proofs.Json.Written
import Commissioning.Rehearsal

set_option autoImplicit false

/-! # Loading configurations

A configuration file may leave out any key. What it says is merged key by key with the defaults of
the environment and loaded if the outcome is valid (`merges_key_by_key`). The defaults themselves
are loaded without a check, and are valid in every environment. -/

namespace Commissioning.Config

open Json

/-! ## Defaults -/

theorem hasEndpoint_default (env : Environment) : (default env).HasEndpoint := by
  refine ⟨⟨"http", some { host := some (.domain "localhost"), port := some 8084 }, "/jsonrpc",
    none, none⟩, ?_, .inl rfl⟩
  show Url.parse "http://localhost:8084/jsonrpc" = .ok _
  decide +kernel

/-- The defaults are valid, whatever the environment is. -/
theorem validate_default (env : Environment) : (default env).validate = .ok () := by
  rw [validate_eq_ok_iff]
  refine ⟨hasEndpoint_default env, ?_, ?_⟩
  · show ∃ char ∈ "IBN".toList, Text.isBlank char = false
    exact ⟨'I', by decide, by decide⟩
  · exact List.cons_ne_nil _ _

/-! ## Files -/

/-- Bytes hold a configuration exactly when they are a text that is read as it and it is valid. -/
theorem ofBytes_eq_ok_iff {env : Environment} {path : Path}
    {content : Except Files.Error (List UInt8)} {c : Config} :
    ofBytes env path content = .ok c ↔
      ∃ bytes text, content = .ok bytes ∧ Text.decodeUtf8 bytes = some text ∧
        (reader (default env)).read text = .ok c ∧ c.validate = .ok () := by
  constructor
  · intro h
    unfold ofBytes at h
    split at h
    · exact absurd h (by simp)
    next bytes =>
      split at h
      · exact absurd h (by simp)
      next text hdecode =>
        split at h
        · exact absurd h (by simp)
        next config hread =>
          split at h
          · exact absurd h (by simp)
          next hvalid =>
            obtain rfl := Except.ok.inj h
            exact ⟨bytes, text, rfl, hdecode, hread, hvalid⟩
  · rintro ⟨bytes, text, rfl, hdecode, hread, hvalid⟩
    simp only [ofBytes, hdecode, hread, hvalid]

variable {σ : Type} [Host (StateM σ)]

/-- Loading a file gives what its bytes hold, whatever is logged. -/
theorem fst_run_load (env : Environment) (path : Path) (s : σ) :
    ((load env path : StateM σ (Except Error Config)).run s).1
      = ofBytes env path ((Host.readFile path : StateM σ _).run s).1 := by
  rcases hread : (Host.readFile path : StateM σ _).run s with ⟨content, s'⟩
  unfold load
  rw [run_bind_of_run hread]
  cases ofBytes env path content <;> rfl

/-- A file with a text is loaded as what the text is read as, if that is valid. -/
theorem load_text_eq_ok_iff {env : Environment} {path : Path} {s : σ} {text : String} {c : Config}
    (h : ((Host.readFile path : StateM σ _).run s).1 = .ok (Text.encodeUtf8 text)) :
    ((load env path : StateM σ (Except Error Config)).run s).1 = .ok c ↔
      (reader (default env)).read text = .ok c ∧ c.validate = .ok () := by
  rw [fst_run_load, h, ofBytes_eq_ok_iff]
  constructor
  · rintro ⟨bytes, text', hbytes, hdecode, hread, hvalid⟩
    obtain rfl := Except.ok.inj hbytes
    rw [Text.decodeUtf8_encodeUtf8, Option.some.injEq] at hdecode
    subst hdecode
    exact ⟨hread, hvalid⟩
  · rintro ⟨hread, hvalid⟩
    exact ⟨_, text, rfl, Text.decodeUtf8_encodeUtf8 text, hread, hvalid⟩

/-- **What is loaded is valid.** -/
theorem validate_of_load {env : Environment} {path : Path} {s : σ} {c : Config}
    (h : ((load env path : StateM σ (Except Error Config)).run s).1 = .ok c) :
    c.validate = .ok () := by
  rw [fst_run_load, ofBytes_eq_ok_iff] at h
  obtain ⟨_, _, -, -, -, hvalid⟩ := h
  exact hvalid

/-- What is loaded is valid also where there is no file. -/
theorem validate_of_loadOrDefault {env : Environment} {path : Path} {s : σ} {c : Config}
    (h : ((loadOrDefault env path : StateM σ (Except Error Config)).run s).1 = .ok c) :
    c.validate = .ok () := by
  let asked := (Host.pathExists path : StateM σ Bool).run s
  have hrun : ((loadOrDefault env path : StateM σ (Except Error Config)).run s).1
      = ((if asked.1 then load env path
          else pure (.ok (default env)) : StateM σ (Except Error Config)).run asked.2).1 :=
    rfl
  rw [hrun] at h
  split at h
  · exact validate_of_load h
  · obtain rfl := Except.ok.inj h
    exact validate_default env

/-! ## Keys that are left out -/

/-- What a configuration file with an object keeps to. -/
structure KeyByKey (env : Environment) (text : String) (members : List (String × Value)) :
    Prop where
  /-- It is read exactly when every key that stands there has its type. -/
  read_iff : (∃ c, (reader (default env)).read text = .ok c) ↔ IsTyped members
  /-- Every part is what stands at its key, or the default if the key is left out. -/
  merged : ∀ c, (reader (default env)).read text = .ok c ↔ IsMerged (default env) members c
  /-- The order of the members does not count, nor do those that stand at no key. -/
  others : ∀ text' members', parse text' = .ok (.object members') →
    (known members).Perm (known members') →
    ∀ c, (reader (default env)).read text' = .ok c ↔ (reader (default env)).read text = .ok c
  /-- On every host it is loaded exactly if the outcome is valid. -/
  loaded : ∀ (σ : Type) [Host (StateM σ)] (path : Path) (s : σ),
    ((Host.readFile path : StateM σ _).run s).1 = .ok (Text.encodeUtf8 text) →
    ∀ c, ((load env path : StateM σ (Except Error Config)).run s).1 = .ok c ↔
      IsMerged (default env) members c ∧ c.validate = .ok ()

theorem read_eq_ok_iff {base c : Config} {text : String} {members : List (String × Value)}
    (h : parse text = .ok (.object members)) (honce : keys.Once members) :
    (reader base).read text = .ok c ↔ IsMerged base members c := by
  rw [← ofValue?_eq_some_iff honce, ← read_of_parse base h]
  cases (reader base).read text <;> simp [Except.toOption]

theorem keyByKey {env : Environment} {text : String} {members : List (String × Value)}
    (h : parse text = .ok (.object members)) (honce : keys.Once members) :
    KeyByKey env text members where
  read_iff := by
    simp only [read_eq_ok_iff h honce, ← ofValue?_eq_some_iff honce]
    exact exists_ofValue?_iff honce
  merged c := read_eq_ok_iff h honce
  others text' members' h' hperm c := by
    obtain ⟨honce', hmerged⟩ := isMerged_of_perm honce hperm
    rw [read_eq_ok_iff h honce, read_eq_ok_iff h' honce', hmerged]
  loaded σ _ path s hfile c := by
    rw [load_text_eq_ok_iff hfile, read_eq_ok_iff h honce]

/-- **A configuration file is merged key by key** with the defaults of the environment, and whatever
is loaded is valid. -/
theorem merges_key_by_key (env : Environment) :
    (∀ text members, parse text = .ok (.object members) → keys.Once members →
      KeyByKey env text members) ∧
    ∀ (σ : Type) [Host (StateM σ)] (path : Path) (s : σ) (c : Config),
      ((load env path : StateM σ (Except Error Config)).run s).1 = .ok c ∨
        ((loadOrDefault env path : StateM σ (Except Error Config)).run s).1 = .ok c →
      c.validate = .ok () := by
  constructor
  · intro text members h honce
    exact keyByKey h honce
  · intro σ _ path s c h
    rcases h with hload | hdefault
    · exact validate_of_load hload
    · exact validate_of_loadOrDefault hdefault

/-! ### A file with three keys -/

/-- Three keys out of their order, one of them without a text, and a name that is repeated and is
no key. -/
def threeKeys : List (String × Value) :=
  [("views", .ofTexts ["welcome"]), ("note", .null), ("username", .null),
    ("note", .boolean true), ("endpoint", .text "https://desk/")]

/-- The configuration that they make with a directory for downloads from the environment. -/
def threeKeysMerged : Config where
  endpoint := "https://desk/"
  downloadDir := ⟨"/srv"⟩
  fileNameStem := "IBN"
  username := none
  password := none
  views := ["welcome"]

/-- A host with a text in its only file. -/
def hostOf (text : String) : Rehearsal where
  files := FileSystem.set { entries := [], here := [] } ["config.json".toList]
    (.file (Text.encodeUtf8 text))
  date := (Date.of? 2024 2 29).get rfl

theorem readFile_hostOf (text : String) :
    ((Host.readFile ⟨"/config.json"⟩ : StateM Rehearsal _).run (hostOf text)).1
      = .ok (Text.encodeUtf8 text) :=
  rfl

theorem merges_key_by_key_three :
    keys.Once threeKeys ∧
      ((load { downloadDir := some "/srv" } ⟨"/config.json"⟩ :
          StateM Rehearsal (Except Error Config)).run
        (hostOf (Value.object threeKeys).compact)).1 = .ok threeKeysMerged ∧
      threeKeysMerged.validate = .ok () := by
  obtain ⟨hmerges, hvalid⟩ := merges_key_by_key { downloadDir := some "/srv" }
  have honce : keys.Once threeKeys := by
    intro k
    cases k <;> decide
  have hparse : parse (Value.object threeKeys).compact = .ok (.object threeKeys) :=
    parse_compact ⟨⟨trivial, trivial⟩, trivial, trivial, trivial, trivial, trivial⟩
  have hkeys := hmerges _ threeKeys hparse honce
  have hload := (hkeys.loaded Rehearsal _ _ (readFile_hostOf _) threeKeysMerged).mpr
    ⟨fun k => by cases k <;> rfl, by decide +kernel⟩
  exact ⟨honce, hload, hvalid Rehearsal _ _ _ (.inl hload)⟩

end Commissioning.Config
