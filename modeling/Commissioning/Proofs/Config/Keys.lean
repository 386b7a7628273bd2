import Commissioning.Proofs.Config
import Commissioning.Proofs.Json.Keys

set_option autoImplicit false

/-! # Configurations key by key

A configuration is read from an object exactly when every key that stands there has its type. Each
of its parts then is what stands at the key, or the default where the key is left out, whatever the
other members are (`ofValue?_eq_some_iff`). -/

namespace Commissioning.Config

open Json

/-! ## Keys -/

/-- The keys of a configuration in JSON. -/
inductive Key where
  | endpoint
  | downloadDir
  | fileNameStem
  | username
  | password
  | views
  deriving DecidableEq, Repr

namespace Key

def name : Key → String
  | endpoint => "endpoint"
  | downloadDir => "download_dir"
  | fileNameStem => "file_name_prefix"
  | username => "username"
  | password => "password"
  | views => "views"

/-- What may stand at a key: a text, a text or nothing, or several texts. -/
abbrev Held : Key → Type
  | endpoint => String
  | downloadDir => String
  | fileNameStem => String
  | username => Option String
  | password => Option String
  | views => List String

/-- What stands at a key as JSON. -/
def json : (k : Key) → k.Held → Value
  | endpoint => .text
  | downloadDir => .text
  | fileNameStem => .text
  | username => optionalJson
  | password => optionalJson
  | views => .ofTexts

/-- The part of a configuration that a key is for. -/
def part : (k : Key) → Config → k.Held
  | endpoint, c => c.endpoint
  | downloadDir, c => c.downloadDir.text
  | fileNameStem, c => c.fileNameStem
  | username, c => c.username
  | password, c => c.password
  | views, c => c.views

/-- What a value means at a key. -/
def meaning : (k : Key) → Value → Option k.Held
  | endpoint => Value.text?
  | downloadDir => Value.text?
  | fileNameStem => Value.text?
  | username => Value.optional? Value.text?
  | password => Value.optional? Value.text?
  | views => Value.texts?

/-- What has been read at a key. -/
def get : (k : Key) → Draft → Option k.Held
  | endpoint, d => d.endpoint
  | downloadDir, d => d.downloadDir
  | fileNameStem, d => d.fileNameStem
  | username, d => d.username
  | password, d => d.password
  | views, d => d.views

def set : (k : Key) → Draft → k.Held → Draft
  | endpoint, d, s => { d with endpoint := some s }
  | downloadDir, d, s => { d with downloadDir := some s }
  | fileNameStem, d, s => { d with fileNameStem := some s }
  | username, d, s => { d with username := some s }
  | password, d, s => { d with password := some s }
  | views, d, s => { d with views := some s }

theorem name_injective : Function.Injective name := by
  intro k k' h
  cases k <;> cases k' <;> first | rfl | exact absurd h (by decide)

theorem mem_names_iff {name : String} : name ∈ fields.map (·.name) ↔ ∃ k : Key, k.name = name := by
  constructor
  · intro h
    simp only [fields, Field.ofLens, List.map_cons, List.map_nil, List.mem_cons,
      List.not_mem_nil, or_false] at h
    rcases h with rfl | rfl | rfl | rfl | rfl | rfl
    · exact ⟨endpoint, rfl⟩
    · exact ⟨downloadDir, rfl⟩
    · exact ⟨fileNameStem, rfl⟩
    · exact ⟨username, rfl⟩
    · exact ⟨password, rfl⟩
    · exact ⟨views, rfl⟩
  · rintro ⟨k, rfl⟩
    cases k <;> simp [fields, Field.ofLens, Key.name]

/-! ### What values mean at keys -/

theorem optional?_eq_some_iff {v : Value} {s : Option String} :
    Value.optional? Value.text? v = some s ↔ v = optionalJson s := by
  cases v <;> cases s <;> simp [Value.optional?, Value.text?, optionalJson, eq_comm]

theorem texts?_eq_some_iff {v : Value} {texts : List String} :
    v.texts? = some texts ↔ v = .ofTexts texts := by
  have hitems : ∀ (items : List Value) (texts : List String),
      items.mapM Value.text? = some texts ↔ items = texts.map .text := by
    intro items
    induction items with
    | nil =>
      intro texts
      cases texts <;> simp
    | cons v items ih =>
      intro texts
      cases texts with
      | nil => simp [Option.bind_eq_some_iff]
      | cons s texts => simp [Option.bind_eq_some_iff, Value.text?_eq_some, ih]
  cases v with
  | array items => simp [Value.texts?, Value.ofTexts, hitems]
  | _ => simp [Value.texts?, Value.ofTexts]

/-- A value means something at a key exactly when it is written so. -/
theorem meaning_eq_some_iff {k : Key} {v : Value} {x : k.Held} :
    k.meaning v = some x ↔ v = k.json x := by
  cases k with
  | endpoint => exact Value.text?_eq_some
  | downloadDir => exact Value.text?_eq_some
  | fileNameStem => exact Value.text?_eq_some
  | username => exact optional?_eq_some_iff
  | password => exact optional?_eq_some_iff
  | views => exact texts?_eq_some_iff

theorem json_inj {k : Key} {x x' : k.Held} : k.json x = k.json x' ↔ x = x' := by
  rw [← meaning_eq_some_iff, meaning_eq_some_iff.mpr rfl, Option.some.injEq]

/-- A part of a configuration after a merge is what has been read for it, or else what it was. -/
theorem part_merge (k : Key) (base : Config) (d : Draft) :
    k.part (base.merge d) = (k.get d).getD (k.part base) := by
  cases k with
  | downloadDir =>
    show ((d.downloadDir.map Path.mk).getD base.downloadDir).text
      = d.downloadDir.getD base.downloadDir.text
    cases d.downloadDir <;> rfl
  | _ => rfl

end Key

/-- Two configurations are the same if they are so at every key. -/
theorem ext_part {c c' : Config} (h : ∀ k : Key, k.part c = k.part c') : c = c' := by
  obtain ⟨endpoint, ⟨dir⟩, stem, username, password, views⟩ := c
  obtain ⟨endpoint', ⟨dir'⟩, stem', username', password', views'⟩ := c'
  have hendpoint : endpoint = endpoint' := h .endpoint
  have hdir : dir = dir' := h .downloadDir
  have hstem : stem = stem' := h .fileNameStem
  have husername : username = username' := h .username
  have hpassword : password = password' := h .password
  have hviews : views = views' := h .views
  rw [hendpoint, hdir, hstem, husername, hpassword, hviews]

/-- The keys of a configuration, with the slots of a draft. -/
def keys : Keys Key Draft where
  name := Key.name
  Held := Key.Held
  meaning := Key.meaning
  get := Key.get
  set := Key.set
  name_injective := Key.name_injective
  get_set_self k s x := by cases k <;> rfl
  get_set_of_ne k k' s x h := by cases k <;> cases k' <;> first | rfl | exact absurd rfl h

theorem get_empty (k : Key) : k.get {} = none := by
  cases k <;> rfl

/-- A configuration is read by its keys. -/
theorem steps_recordStep : keys.Steps (recordStep fields sense) where
  atKey k s v hfree := by
    have hstep : recordStep fields sense s (k.name, v)
        = if (k.get s).isSome then none else (k.meaning v).map (k.set s) := by
      cases k <;> rfl
    have hfree : k.get s = none := hfree
    show recordStep fields sense s (k.name, v) = (k.meaning v).map (k.set s)
    rw [hstep, hfree]
    rfl
  elsewhere s name v hname := by
    apply recordStep_of_not_mem
    rw [Key.mem_names_iff]
    rintro ⟨k, hk⟩
    exact hname k hk

/-! ## Merging -/

/-- Whether every key that stands among some members has its type. -/
def IsTyped (members : List (String × Value)) : Prop :=
  ∀ (k : Key) v, Value.member? k.name members = some v → ∃ x, v = k.json x

/-- Whether a configuration has at each key what stands there, and what another one has where the
key is left out. -/
def IsMerged (base : Config) (members : List (String × Value)) (c : Config) : Prop :=
  ∀ k : Key,
    match Value.member? k.name members with
    | some v => v = k.json (k.part c)
    | none => k.part c = k.part base

variable {base c : Config} {members : List (String × Value)}

theorem IsMerged.isTyped (h : IsMerged base members c) : IsTyped members := by
  intro k v hmember
  have hk := h k
  rw [hmember] at hk
  exact ⟨k.part c, hk⟩

/-- There is one such configuration at most. -/
theorem IsMerged.unique {c' : Config} (h : IsMerged base members c)
    (h' : IsMerged base members c') : c = c' := by
  apply ext_part
  intro k
  have hk := h k
  have hk' := h' k
  cases hmember : Value.member? k.name members with
  | none =>
    rw [hmember] at hk hk'
    exact hk.trans hk'.symm
  | some v =>
    rw [hmember] at hk hk'
    exact Key.json_inj.mp (hk.symm.trans hk')

/-- The members of an object are read into a draft key by key, or refused for one of the keys. -/
theorem draft_cases (honce : keys.Once members) :
    (∃ d, members.foldlM (recordStep fields sense) {} = some d ∧ ∀ k : Key,
        filled k.meaning none (Value.member? k.name members) = some (k.get d)) ∨
      (members.foldlM (recordStep fields sense) {} = none ∧ ∃ k : Key,
        filled k.meaning none (Value.member? k.name members) = none) := by
  have hheld : ∀ k : Key, keys.heldAfter members {} k
      = filled k.meaning none (Value.member? k.name members) :=
    fun k => congrArg (filled k.meaning · _) (get_empty k)
  simp only [← hheld]
  exact steps_recordStep.foldlM_cases honce fun k _ => get_empty k

/-- The members of an object are merged, or one of them has not the type of its key. -/
theorem ofValue?_cases (base : Config) (honce : keys.Once members) :
    (∃ c, ofValue? base (.object members) = some c ∧ IsMerged base members c) ∨
      (ofValue? base (.object members) = none ∧ ¬ IsTyped members) := by
  simp only [ofValue?, recordOf, missing?_fields, Option.isNone_none]
  rcases draft_cases honce with ⟨d, hfold, hfilled⟩ | ⟨hfold, k, hrefused⟩
  · refine .inl ⟨base.merge d, by simp [hfold], ?_⟩
    intro k
    have hk := hfilled k
    rw [Key.part_merge]
    cases hmember : Value.member? k.name members with
    | none =>
      rw [hmember, filled, Option.some.injEq] at hk
      simp [← hk]
    | some v =>
      rw [hmember, filled, Option.map_eq_some_iff] at hk
      obtain ⟨x, hmeaning, hget⟩ := hk
      simp only [← hget, Option.getD_some]
      exact Key.meaning_eq_some_iff.mp hmeaning
  · refine .inr ⟨by simp [hfold], ?_⟩
    intro htyped
    cases hmember : Value.member? k.name members with
    | none => simp [hmember, filled] at hrefused
    | some v =>
      obtain ⟨x, hx⟩ := htyped k v hmember
      have hmeaning := Key.meaning_eq_some_iff.mpr hx
      simp [hmember, filled, hmeaning] at hrefused

/-- **A configuration is merged key by key** from the members of an object and another one. -/
theorem ofValue?_eq_some_iff (honce : keys.Once members) :
    ofValue? base (.object members) = some c ↔ IsMerged base members c := by
  constructor
  · intro h
    rcases ofValue?_cases base honce with ⟨c', hread, hmerged⟩ | ⟨hread, -⟩
    · obtain rfl := Option.some.inj (h.symm.trans hread)
      exact hmerged
    · exact absurd (h.symm.trans hread) (Option.some_ne_none c)
  · intro h
    rcases ofValue?_cases base honce with ⟨c', hread, hmerged⟩ | ⟨-, hnot⟩
    · rw [hread, h.unique hmerged]
    · exact absurd h.isTyped hnot

theorem exists_ofValue?_iff (honce : keys.Once members) :
    (∃ c, ofValue? base (.object members) = some c) ↔ IsTyped members := by
  constructor
  · rintro ⟨c, h⟩
    exact ((ofValue?_eq_some_iff honce).mp h).isTyped
  · intro htyped
    rcases ofValue?_cases base honce with ⟨c, hread, -⟩ | ⟨-, hnot⟩
    · exact ⟨c, hread⟩
    · exact absurd htyped hnot

/-! ## Other members -/

/-- Whether a name is that of a key. -/
def isKey (name : String) : Bool :=
  decide (name ∈ fields.map (·.name))

/-- The members of an object that stand at keys. -/
def known (members : List (String × Value)) : List (String × Value) :=
  members.filter fun m => isKey m.1

theorem isKey_name (k : Key) : isKey k.name = true :=
  decide_eq_true (Key.mem_names_iff.mpr ⟨k, rfl⟩)

theorem member?_known (k : Key) (members : List (String × Value)) :
    Value.member? k.name (known members) = Value.member? k.name members :=
  Value.member?_filter (isKey_name k) members

theorem count_known (k : Key) (members : List (String × Value)) :
    ((known members).map Prod.fst).count k.name = (members.map Prod.fst).count k.name := by
  have hnames : (known members).map Prod.fst = (members.map Prod.fst).filter isKey := by
    rw [known, List.filter_map]
    rfl
  rw [hnames, List.count_filter (isKey_name k)]

/-- **Neither the order of the members counts nor what stands at no key.** -/
theorem isMerged_of_perm {members' : List (String × Value)} (honce : keys.Once members)
    (hperm : (known members).Perm (known members')) :
    keys.Once members' ∧
      ∀ base c : Config, IsMerged base members' c ↔ IsMerged base members c := by
  have hcount : ∀ k : Key,
      (members'.map Prod.fst).count k.name = (members.map Prod.fst).count k.name := by
    intro k
    rw [← count_known k members, ← count_known k members', (hperm.map Prod.fst).count_eq]
  have hmember : ∀ k : Key, Value.member? k.name members' = Value.member? k.name members := by
    intro k
    have hsingle : ((known members).map Prod.fst).count k.name ≤ 1 := by
      rw [count_known]
      exact honce k
    rw [← member?_known k members, ← member?_known k members', Value.member?_perm hperm hsingle]
  constructor
  · intro k
    show (members'.map Prod.fst).count k.name ≤ 1
    rw [hcount]
    exact honce k
  · intro base c
    unfold IsMerged
    simp only [hmember]

end Commissioning.Config
