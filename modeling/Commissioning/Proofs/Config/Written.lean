import Commissioning.Proofs.Config.Loading

set_option autoImplicit false

/-! # Written configurations

A configuration is written without its password and read back with all its other parts as they
were, in whatever environment: the password is the only key that is left out, and there is none
among the defaults (`written_and_read`). -/

namespace Commissioning.Config

open Json

/-! ## The text of a configuration -/

/-- The members that a configuration is written with. -/
def writtenKeys (c : Config) : List (String × Value) :=
  [("endpoint", .text c.endpoint), ("download_dir", .text c.downloadDir.text),
    ("file_name_prefix", .text c.fileNameStem), ("username", optionalJson c.username),
    ("views", .ofTexts c.views)]

theorem toJson_eq (c : Config) : c.toJson = .object c.writtenKeys :=
  rfl

theorem returns_optionalJson (s : Option String) (depth : Nat) :
    (optionalJson s).Returns depth := by
  cases s <;> exact trivial

theorem returns_ofTexts (texts : List String) (depth : Nat) :
    (Value.ofTexts texts).Returns (depth + 1) := by
  show itemsReturn depth (texts.map .text)
  induction texts with
  | nil => exact trivial
  | cons s texts ih => exact ⟨trivial, ih⟩

theorem returns_toJson (c : Config) (depth : Nat) : c.toJson.Returns (depth + 2) :=
  ⟨trivial, trivial, trivial, returns_optionalJson c.username _, returns_ofTexts c.views depth,
    trivial⟩

theorem parse_toJson (c : Config) : parse c.toJson.compact = .ok (.object c.writtenKeys) :=
  parse_compact (c.returns_toJson (nesting - 2))

theorem toJson_withPassword (c : Config) (password : Option String) :
    { c with password := password }.toJson = c.toJson :=
  rfl

theorem validate_withPassword (c : Config) (password : Option String) :
    { c with password := password }.validate = c.validate :=
  rfl

/-! ## Reading it back -/

theorem once_writtenKeys (c : Config) : keys.Once c.writtenKeys := by
  intro k
  show ["endpoint", "download_dir", "file_name_prefix", "username", "views"].count k.name ≤ 1
  cases k <;> decide

/-- What is written has every part of a configuration but the password. -/
theorem isMerged_writtenKeys (base c : Config) :
    IsMerged base c.writtenKeys { c with password := base.password } := by
  intro k
  cases k <;> rfl

/-- Every text that stands for a configuration is read as it, with the password of the defaults. -/
theorem read_of_parse_toJson {base c : Config} {text : String}
    (h : parse text = .ok (.object c.writtenKeys)) :
    (reader base).read text = .ok { c with password := base.password } :=
  (read_eq_ok_iff h c.once_writtenKeys).mpr (isMerged_writtenKeys base c)

/-- **A configuration survives being written and read**, but for its password. The text says nothing
about the password, and a file with the text is loaded exactly if the configuration is valid. -/
theorem written_and_read (c : Config) (env : Environment) :
    (reader (default env)).read c.toJson.compact = .ok { c with password := none } ∧
      (∀ password, { c with password := password }.toJson.compact = c.toJson.compact) ∧
      ∀ (σ : Type) [Host (StateM σ)] (path : Path) (s : σ),
        ((Host.readFile path : StateM σ _).run s).1 = .ok (Text.encodeUtf8 c.toJson.compact) →
        ∀ c', ((load env path : StateM σ (Except Error Config)).run s).1 = .ok c' ↔
          c' = { c with password := none } ∧ c.validate = .ok () := by
  have hread : (reader (default env)).read c.toJson.compact = .ok { c with password := none } :=
    read_of_parse_toJson c.parse_toJson
  refine ⟨hread, fun password => ?_, fun σ _ path s hfile c' => ?_⟩
  · rw [toJson_withPassword]
  · rw [load_text_eq_ok_iff hfile, hread, Except.ok.injEq]
    constructor
    · rintro ⟨rfl, hvalid⟩
      exact ⟨rfl, c.validate_withPassword none ▸ hvalid⟩
    · rintro ⟨rfl, hvalid⟩
      exact ⟨rfl, c.validate_withPassword none ▸ hvalid⟩

/-! ### A configuration with a password -/

/-- A configuration with quotes in its stem. -/
def quoted : Config where
  endpoint := "https://desk/"
  downloadDir := ⟨"/srv"⟩
  fileNameStem := "\"A\""
  username := some "eva"
  password := some "geheim"
  views := ["welcome", "goodbye"]

/-- It is loaded without its password, and refused once its stem is blank. -/
theorem written_and_read_quoted :
    ((load { home := some "/root" } ⟨"/config.json"⟩ :
        StateM Rehearsal (Except Error Config)).run (hostOf quoted.toJson.compact)).1
      = .ok { quoted with password := none } ∧
    ∀ c', ((load { home := some "/root" } ⟨"/config.json"⟩ :
        StateM Rehearsal (Except Error Config)).run
          (hostOf { quoted with fileNameStem := " " }.toJson.compact)).1 ≠ .ok c' := by
  obtain ⟨-, -, hload⟩ := written_and_read quoted { home := some "/root" }
  obtain ⟨-, -, hblank⟩ :=
    written_and_read { quoted with fileNameStem := " " } { home := some "/root" }
  constructor
  · rw [hload Rehearsal _ _ (readFile_hostOf _)]
    exact ⟨rfl, by decide +kernel⟩
  · intro c' h
    rw [hblank Rehearsal _ _ (readFile_hostOf _)] at h
    exact absurd h.2 (by decide +kernel)

end Commissioning.Config
