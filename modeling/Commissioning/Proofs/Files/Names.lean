import Commissioning.Proofs.Calendar
import Commissioning.Proofs.Text.Trim
import Commissioning.Saver
import Mathlib.Data.List.DropRight

set_option autoImplicit false

/-! # Names of saved files

Of the name that is suggested for a document the saver keeps what stands behind the last slash,
without the blanks around it. The end of the name, with the date in it, comes through whole; what is
left of the stem and the entity in front of it is said by `keptPart`. The suggested name itself
tells the entity and the day from each other (`Document.protocolFileName_inj`). -/

namespace Commissioning

/-! ## Pieces -/

namespace Text

theorem pieces_append_cons (sep : Char) (cs ds : List Char) :
    pieces sep (cs ++ sep :: ds) = pieces sep cs ++ pieces sep ds := by
  induction cs with
  | nil =>
    obtain ⟨piece, more, hpieces⟩ := List.exists_cons_of_ne_nil (pieces_ne_nil sep ds)
    simp [pieces, hpieces]
  | cons c cs ih =>
    obtain ⟨piece, more, hpieces⟩ := List.exists_cons_of_ne_nil (pieces_ne_nil sep cs)
    rw [hpieces, List.cons_append] at ih
    simp only [List.cons_append, pieces, ih, hpieces]
    split <;> rfl

theorem pieces_of_not_mem {sep : Char} {cs : List Char} (h : sep ∉ cs) : pieces sep cs = [cs] := by
  induction cs with
  | nil => rfl
  | cons c cs ih =>
    obtain ⟨hc, hcs⟩ := not_or.mp (fun hor => h (List.mem_cons.mpr hor))
    rw [pieces, ih hcs]
    exact if_neg (Ne.symm hc)

theorem not_mem_of_mem_pieces {sep : Char} {cs piece : List Char} (h : piece ∈ pieces sep cs) :
    sep ∉ piece := by
  induction cs generalizing piece with
  | nil =>
    rw [pieces, List.mem_singleton] at h
    subst h
    exact List.not_mem_nil
  | cons c cs ih =>
    obtain ⟨first, more, hpieces⟩ := List.exists_cons_of_ne_nil (pieces_ne_nil sep cs)
    simp only [pieces, hpieces] at h ih
    split at h
    · rcases List.mem_cons.mp h with rfl | h
      · exact List.not_mem_nil
      · exact ih h
    next hc =>
      rcases List.mem_cons.mp h with rfl | h
      · intro hmem
        rcases List.mem_cons.mp hmem with heq | hmem
        · exact hc heq.symm
        · exact ih List.mem_cons_self hmem
      · exact ih (List.mem_cons_of_mem _ h)

/-- What stands behind the last separator is the last piece, with all that follows it. -/
theorem exists_pieces_append {sep : Char} (cs : List Char) {ds : List Char} (h : sep ∉ ds) :
    ∃ front, pieces sep (cs ++ ds) = front ++ [cs.rtakeWhile (· != sep) ++ ds] := by
  have hlast : sep ∉ cs.rtakeWhile (· != sep) ++ ds := by
    intro hmem
    rcases List.mem_append.mp hmem with hmem | hmem
    · simpa using List.mem_rtakeWhile_imp hmem
    · exact h hmem
  have hcut := List.rdropWhile_append_rtakeWhile (p := (· != sep)) (l := cs)
  by_cases hnil : cs.rdropWhile (· != sep) = []
  · rw [hnil, List.nil_append] at hcut
    refine ⟨[], ?_⟩
    rw [hcut] at hlast ⊢
    exact pieces_of_not_mem hlast
  · -- What is dropped ends with the last separator.
    have hsep : (cs.rdropWhile (· != sep)).getLast hnil = sep := by
      simpa using List.rdropWhile_last_not (· != sep) cs hnil
    have hdropped := List.dropLast_append_getLast hnil
    rw [hsep] at hdropped
    refine ⟨pieces sep (cs.rdropWhile (· != sep)).dropLast, ?_⟩
    rw [← pieces_of_not_mem hlast, ← pieces_append_cons, ← List.singleton_append,
      ← List.append_assoc, hdropped, ← List.append_assoc, hcut]

end Text

/-! ## Names in a directory -/

namespace Path

/-- Whether a text is a single name. -/
def IsName (name : String) : Prop :=
  '/' ∉ name.toList

theorem IsName.not_absolute {name : String} (h : IsName name) :
    (Path.mk name).isAbsolute = false := by
  unfold isAbsolute
  rw [beq_eq_false_iff_ne]
  exact fun hhead => h (List.mem_of_mem_head? hhead)

/-- The path of a name in a directory is that of the directory, without a slash at its end, and the
name. -/
theorem exists_segments_join (dir : Path) :
    ∃ above, (dir.segments = above ∨ dir.segments = above ++ [[]]) ∧ ∀ name, IsName name →
      (dir.join name).segments = above ++ [name.toList] ∧
        (dir.join name).isAbsolute = dir.isAbsolute := by
  have hname : ∀ {name}, IsName name → Text.pieces '/' name.toList = [name.toList] :=
    Text.pieces_of_not_mem
  by_cases hempty : dir.text = ""
  · have hsegments : dir.segments = [] ++ [[]] := by
      rw [segments, hempty]
      rfl
    refine ⟨[], Or.inr hsegments, fun name h => ?_⟩
    have hjoin : dir.join name = ⟨name⟩ := by simp [join, hempty]
    rw [hjoin]
    refine ⟨hname h, h.not_absolute.trans ?_⟩
    rw [isAbsolute, hempty]
    rfl
  · have hne : dir.text.toList ≠ [] := by simpa using hempty
    have hroot : ∀ rest : String, (Path.mk (dir.text ++ rest)).isAbsolute = dir.isAbsolute := by
      intro rest
      unfold isAbsolute
      rw [String.toList_append, List.head?_append_of_ne_nil _ hne]
    by_cases hslash : dir.text.toList.getLast? = some '/'
    · obtain ⟨above, habove⟩ := List.getLast?_eq_some_iff.mp hslash
      have hsegments : dir.segments = Text.pieces '/' above ++ [[]] := by
        rw [segments, habove, Text.pieces_append_cons]
        rfl
      refine ⟨Text.pieces '/' above, Or.inr hsegments, fun name h => ?_⟩
      have hjoin : dir.join name = ⟨dir.text ++ name⟩ := by
        simp [join, h.not_absolute, hempty, hslash]
      rw [hjoin]
      refine ⟨?_, hroot name⟩
      rw [segments, String.toList_append, habove, List.append_assoc, List.singleton_append,
        Text.pieces_append_cons, hname h]
    · refine ⟨dir.segments, Or.inl rfl, fun name h => ?_⟩
      have hjoin : dir.join name = ⟨dir.text ++ "/" ++ name⟩ := by
        simp [join, h.not_absolute, hempty, hslash]
      rw [hjoin, String.append_assoc]
      refine ⟨?_, hroot _⟩
      have hcut : (dir.text ++ ("/" ++ name)).toList = dir.text.toList ++ '/' :: name.toList := by
        simp
      rw [segments, hcut, Text.pieces_append_cons, hname h]
      rfl

theorem join_inj {dir : Path} {name name' : String} (h : IsName name) (h' : IsName name') :
    dir.join name = dir.join name' ↔ name = name' := by
  obtain ⟨above, -, hsegments⟩ := exists_segments_join dir
  constructor
  · intro heq
    have hlast := (hsegments name h).1
    rw [heq, (hsegments name' h').1] at hlast
    have hnames := (List.append_inj' hlast rfl).2
    exact (String.toList_inj.mp (List.cons.inj hnames).1).symm
  · rintro rfl
    rfl

end Path

/-! ## Names that the saver keeps -/

namespace Saver

/-- A file is never saved under more than a single name. -/
theorem isName_plainName (suggested : String) : Path.IsName (plainName suggested) := by
  have hname : '/' ∉ (((Path.mk suggested).fileName?).getD fallbackName).toList := by
    unfold Path.fileName?
    split
    next segment rest hsegments =>
      have hmem : segment ∈ (Path.mk suggested).segments.reverse :=
        (List.dropWhile_suffix _).mem (hsegments ▸ List.mem_cons_self)
      split
      · decide
      · rw [Option.getD_some, String.toList_ofList]
        exact Text.not_mem_of_mem_pieces (List.mem_reverse.mp hmem)
    · decide
  unfold plainName Path.IsName
  simp only
  split
  · decide
  · intro hmem
    rw [Text.trim, String.toList_ofList] at hmem
    exact hname (Text.mem_of_mem_trimBlanks hmem)

/-- Documents are saved at the same place exactly when they get the same name. -/
theorem target_inj {s : Saver} {suggested suggested' : String} :
    s.target suggested = s.target suggested' ↔ plainName suggested = plainName suggested' :=
  Path.join_inj (isName_plainName suggested) (isName_plainName suggested')

/-! ### The end of a name -/

/-- What the saver keeps of a text in front of the end of a suggested name: what stands behind the
last slash, without leading blanks. -/
def keptPart (cs : List Char) : List Char :=
  (cs.rtakeWhile (· != '/')).dropWhile Text.isBlank

theorem fileName?_append (cs : List Char) {ds : List Char} (hslash : '/' ∉ ds)
    (hlength : 2 < ds.length) :
    (Path.mk (String.ofList (cs ++ ds))).fileName?
      = some (String.ofList (cs.rtakeWhile (· != '/') ++ ds)) := by
  obtain ⟨front, hpieces⟩ := Text.exists_pieces_append cs hslash
  have hlong : 2 < (cs.rtakeWhile (· != '/') ++ ds).length := by
    rw [List.length_append]
    omega
  generalize cs.rtakeWhile (· != '/') ++ ds = last at hpieces hlong
  have hidle : Path.isIdle last = false := by
    rcases last with _ | ⟨c, _ | ⟨d, rest⟩⟩ <;> simp_all [Path.isIdle]
  have hup : last ≠ ['.', '.'] := by
    rintro rfl
    exact absurd hlong (by decide)
  unfold Path.fileName? Path.segments
  rw [String.toList_ofList, hpieces, List.reverse_append, List.reverse_singleton,
    List.singleton_append, List.dropWhile_cons, if_neg (by simp [hidle])]
  exact if_neg hup

/-! ## The names of protocols -/

/-- The text in front of the date in a suggested name. -/
def label (stem entity : String) : List Char :=
  stem.toList ++ '-' :: entity.toList

/-- What a suggested name ends with. -/
def ending (date : Date) : List Char :=
  '-' :: (date.text ++ ['.', 'p', 'd', 'f'])

theorem protocolFileName_eq (stem entity : String) (date : Date) :
    Document.protocolFileName stem entity date
      = String.ofList (label stem entity ++ ending date) := by
  apply String.toList_inj.mp
  simp [Document.protocolFileName, label, ending]

theorem slash_not_mem_ending (date : Date) : '/' ∉ ending date := by
  intro hmem
  simp only [ending, List.mem_cons, List.mem_append, List.not_mem_nil, or_false] at hmem
  rcases hmem with h | h | h
  · exact absurd h (by decide)
  · rcases Date.mem_text h with h | h | h | h <;> exact absurd h (by decide)
  · exact absurd h (by decide)

theorem getLast?_ending (date : Date) : (ending date).getLast? = some 'f' := by
  show (('-' :: date.text) ++ ['.', 'p', 'd', 'f']).getLast? = some 'f'
  rw [List.getLast?_append_of_ne_nil _ (List.cons_ne_nil _ _)]
  rfl

/-- The name of a saved protocol: of the stem and the entity what the saver keeps, and the end. -/
theorem plainName_protocolFileName (stem entity : String) (date : Date) :
    plainName (Document.protocolFileName stem entity date)
      = String.ofList (keptPart (label stem entity) ++ ending date) := by
  have hlength : 2 < (ending date).length := by
    simp [ending]
  have hne : ending date ≠ [] := List.cons_ne_nil _ _
  have hends : Text.IsTrimmed (ending date) :=
    ⟨by simp [ending, Text.isBlank], by simp [getLast?_ending, Text.isBlank]⟩
  have htrim := Text.trimBlanks_append ((label stem entity).rtakeWhile (· != '/')) hne hends
  unfold plainName
  rw [protocolFileName_eq, fileName?_append _ (slash_not_mem_ending date) hlength]
  simp only [Option.getD_some, Text.trim, String.toList_ofList, htrim]
  exact if_neg (by simp [ending])

/-- The end of a name is told from all that stands in front of it, which may be any text. -/
theorem append_ending_inj {front front' : List Char} {date date' : Date} :
    front ++ ending date = front' ++ ending date' ↔ front = front' ∧ date = date' := by
  constructor
  · intro h
    have hsame : (front ++ ['-']) ++ date.text ++ ['.', 'p', 'd', 'f']
        = (front' ++ ['-']) ++ date'.text ++ ['.', 'p', 'd', 'f'] := by
      simpa [ending] using h
    obtain ⟨hfront, hdate⟩ := Date.append_text_inj (List.append_cancel_right hsame)
    exact ⟨List.append_cancel_right hfront, hdate⟩
  · rintro ⟨rfl, rfl⟩
    rfl

/-- Two protocols get the same name exactly when the days agree and the saver keeps the same of
what stands in front of them. -/
theorem plainName_protocolFileName_inj {stem entity entity' : String} {date date' : Date} :
    plainName (Document.protocolFileName stem entity date)
        = plainName (Document.protocolFileName stem entity' date') ↔
      keptPart (label stem entity) = keptPart (label stem entity') ∧ date = date' := by
  rw [plainName_protocolFileName, plainName_protocolFileName, String.ofList_inj, append_ending_inj]

/-- An entity without a slash is kept whole, behind what is kept of the stem. -/
theorem keptPart_label {stem entity : String} (h : '/' ∉ entity.toList) :
    keptPart (label stem entity) = keptPart stem.toList ++ '-' :: entity.toList := by
  have hplain : ∀ c ∈ ('-' :: entity.toList).reverse, (c != '/') = true := by
    intro c hc
    rcases List.mem_cons.mp (List.mem_reverse.mp hc) with rfl | hc
    · decide
    · simpa using fun heq : c = '/' => h (heq ▸ hc)
  unfold keptPart label List.rtakeWhile
  rw [List.reverse_append, List.takeWhile_append_of_pos hplain, List.reverse_append,
    List.reverse_reverse, Text.dropWhile_isBlank_append _ (by simp [Text.isBlank])]

theorem keptPart_label_inj {stem entity entity' : String} (h : '/' ∉ entity.toList)
    (h' : '/' ∉ entity'.toList) :
    keptPart (label stem entity) = keptPart (label stem entity') ↔ entity = entity' := by
  rw [keptPart_label h, keptPart_label h', List.append_cancel_left_eq, List.cons.injEq,
    String.toList_inj]
  exact and_iff_right rfl

end Saver

/-! ## Suggested names -/

namespace Document

/-- Two names are the same exactly when the days agree and so does all that stands in front of them,
whatever the stems are. -/
theorem protocolFileName_eq_iff {stem stem' entity entity' : String} {date date' : Date} :
    protocolFileName stem entity date = protocolFileName stem' entity' date' ↔
      Saver.label stem entity = Saver.label stem' entity' ∧ date = date' := by
  rw [Saver.protocolFileName_eq, Saver.protocolFileName_eq, String.ofList_inj,
    Saver.append_ending_inj]

/-- **A suggested name tells the entity and the day**, whatever signs, points and digits there are
in either. -/
theorem protocolFileName_inj (stem entity entity' : String) (date date' : Date) :
    protocolFileName stem entity date = protocolFileName stem entity' date' ↔
      entity = entity' ∧ date = date' := by
  have hlabel : Saver.label stem entity = Saver.label stem entity' ↔ entity = entity' := by
    unfold Saver.label
    rw [List.append_cancel_left_eq, List.cons.injEq, String.toList_inj]
    exact and_iff_right rfl
  rw [protocolFileName_eq_iff, hlabel]

end Document

end Commissioning
