import RowGraph.Proofs.Pattern.Grammar

/-!
The three forms of a pattern. Parts that are given one by one can also be put
into the short form in either direction, whatever texts they are, and all three
say the same: the link of these parts if it is plain, and nothing otherwise.

The parts may hold the brackets and dashes that the short form puts between
them. This never helps, because the spelling of a plain link has brackets only
where the short form has them: whatever parts a text was put together from, if
it spells a plain link they are the parts of that link.
-/

namespace RowGraph

namespace Pattern

variable {c : Char} {cs first second : List Char} {back forth back' forth' : String}

theorem not_mem_of_isNameChars (plain : Text.isNameChars cs = true)
    (hc : Text.isNameChar c = false) : c ∉ cs := by
  intro member
  cases cs with
  | nil => cases member
  | cons first rest =>
      obtain ⟨hfirst, hrest⟩ : Text.isNameStart first = true ∧
          ∀ d ∈ rest, Text.isNameChar d = true := by
        simpa [Text.isNameChars] using plain
      rcases List.mem_cons.mp member with rfl | hlater
      · rw [Text.isNameChar_of_isNameStart hfirst] at hc
        cases hc
      · rw [hrest c hlater] at hc
        cases hc

theorem not_mem_of_isKindChars (plain : isKindChars cs = true) (hc : isKindChar c = false) :
    c ∉ cs := by
  intro member
  obtain ⟨-, hall⟩ : cs ≠ [] ∧ ∀ d ∈ cs, isKindChar d = true := by
    simpa [isKindChars] using plain
  rw [hall c member] at hc
  cases hc

theorem back_inj (hback : back = "<-" ∨ back = "-") (hback' : back' = "<-" ∨ back' = "-")
    (h : back.toList ++ '[' :: first = back'.toList ++ '[' :: second) :
    back = back' ∧ first = second := by
  rcases hback with rfl | rfl
  · rcases hback' with rfl | rfl
    · exact ⟨rfl, by simpa using h⟩
    · simp at h
  · rcases hback' with rfl | rfl
    · simp at h
    · exact ⟨rfl, by simpa using h⟩

theorem forth_inj (hforth : forth = "->" ∨ forth = "-") (hforth' : forth' = "->" ∨ forth' = "-")
    (h : forth.toList ++ '(' :: first = forth'.toList ++ '(' :: second) :
    forth = forth' ∧ first = second := by
  rcases hforth with rfl | rfl
  · rcases hforth' with rfl | rfl
    · exact ⟨rfl, by simpa using h⟩
    · simp at h
  · rcases hforth' with rfl | rfl
    · simp at h
    · exact ⟨rfl, by simpa using h⟩

theorem flatten_partsOf (left back kind forth right : List Char) :
    (partsOf left back kind forth right).flatten = '(' :: (left ++ ')' ::
      (back ++ '[' :: ':' :: (kind ++ ']' :: (forth ++ '(' :: right)))) ++ [')'] := by
  simp [partsOf]

/-- A text that is put together from plain parts is not put together from any
other parts. -/
theorem partsOf_inj {left kind right left' kind' right' : List Char}
    (hback : back = "<-" ∨ back = "-") (hback' : back' = "<-" ∨ back' = "-")
    (hforth : forth = "->" ∨ forth = "-") (hforth' : forth' = "->" ∨ forth' = "-")
    (hleft : Text.isNameChars left = true) (hkind : isKindChars kind = true)
    (hright : Text.isNameChars right = true)
    (h : (partsOf left back.toList kind forth.toList right).flatten =
      (partsOf left' back'.toList kind' forth'.toList right').flatten) :
    left = left' ∧ back = back' ∧ kind = kind' ∧ forth = forth' ∧ right = right' := by
  -- Both texts end in a round bracket. Without it the plain one has only one
  -- such bracket left, and one square bracket, and can be cut at these.
  rw [flatten_partsOf, flatten_partsOf, List.append_left_inj, List.cons_inj_right] at h
  have hround : ')' ∉ back.toList ++ '[' :: ':' :: (kind ++ ']' ::
      (forth.toList ++ '(' :: right)) := by
    have hkindRound : ')' ∉ kind := not_mem_of_isKindChars hkind (by decide)
    have hrightRound : ')' ∉ right := not_mem_of_isNameChars hright (by decide)
    rcases hback with rfl | rfl <;> rcases hforth with rfl | rfl <;>
      simp [hkindRound, hrightRound]
  obtain ⟨hlefts, -, hbehind⟩ := (List.append_cons_inj_of_notMem
    (not_mem_of_isNameChars hleft (by decide)) hround).mp h
  obtain ⟨hbacks, hmiddle⟩ := back_inj hback hback' hbehind
  rw [List.cons_inj_right] at hmiddle
  have hsquare : ']' ∉ forth.toList ++ '(' :: right := by
    have hrightSquare : ']' ∉ right := not_mem_of_isNameChars hright (by decide)
    rcases hforth with rfl | rfl <;> simp [hrightSquare]
  obtain ⟨hkinds, -, hend⟩ := (List.append_cons_inj_of_notMem
    (not_mem_of_isKindChars hkind (by decide)) hsquare).mp hmiddle
  obtain ⟨hforths, hrights⟩ := forth_inj hforth hforth' hend
  exact ⟨hlefts, hbacks, hkinds, hforths, hrights⟩

end Pattern

namespace Link

variable {written link : Link}

theorem eq_of_parts (hsource : link.source.toList = written.source.toList)
    (htarget : link.target.toList = written.target.toList)
    (hkind : link.kind.toList = written.kind.toList) : written = link := by
  cases written
  cases link
  rw [String.toList_inj] at hsource htarget hkind
  subst hsource htarget hkind
  rfl

/-- What is written like a plain link in one direction is not written like one
in the other, and it is the same link. -/
theorem eq_of_forth (plain : link.IsPlain)
    (h : written.forth = link.forth ∨ written.forth = link.back) : written = link := by
  rcases h with hforth | hback
  · have htext := congrArg String.toList hforth.symm
    rw [Pattern.toList_forth, Pattern.toList_forth] at htext
    obtain ⟨hsource, -, hkind, -, htarget⟩ := Pattern.partsOf_inj (.inr rfl) (.inr rfl)
      (.inl rfl) (.inl rfl) plain.source plain.kind plain.target htext
    exact eq_of_parts hsource htarget hkind
  · have htext := congrArg String.toList hback.symm
    rw [Pattern.toList_forth, Pattern.toList_back] at htext
    have hdash := (Pattern.partsOf_inj (.inl rfl) (.inr rfl) (.inr rfl) (.inl rfl) plain.target
      plain.kind plain.source htext).2.1
    exact absurd hdash (by decide)

theorem eq_of_back (plain : link.IsPlain)
    (h : written.back = link.forth ∨ written.back = link.back) : written = link := by
  rcases h with hforth | hback
  · have htext := congrArg String.toList hforth.symm
    rw [Pattern.toList_back, Pattern.toList_forth] at htext
    have hdash := (Pattern.partsOf_inj (.inr rfl) (.inl rfl) (.inl rfl) (.inr rfl) plain.source
      plain.kind plain.target htext).2.1
    exact absurd hdash (by decide)
  · have htext := congrArg String.toList hback.symm
    rw [Pattern.toList_back, Pattern.toList_back] at htext
    obtain ⟨htarget, -, hkind, -, hsource⟩ := Pattern.partsOf_inj (.inl rfl) (.inl rfl)
      (.inr rfl) (.inr rfl) plain.target plain.kind plain.source htext
    exact eq_of_parts hsource htarget hkind

end Link

namespace Pattern

variable {link : Link}

/-- A text in round brackets has no blanks at its ends. -/
theorem trims_of_brackets {text : String} {inner : List Char}
    (h : text.toList = '(' :: inner ++ [')']) : Text.Trims text text := by
  refine ⟨⟨[], [], by simp, List.forall_mem_nil _, List.forall_mem_nil _⟩, ?_, ?_⟩
  · intro c hc
    obtain rfl : '(' = c := by simpa [h] using hc
    decide
  · intro c hc
    rw [h, List.getLast?_concat] at hc
    obtain rfl : ')' = c := Option.some.inj hc
    decide

theorem trims_forth (written : Link) : Text.Trims written.forth written.forth := by
  apply trims_of_brackets
  rw [toList_forth, flatten_partsOf]

theorem trims_back (written : Link) : Text.Trims written.back written.back := by
  apply trims_of_brackets
  rw [toList_back, flatten_partsOf]

theorem readStructured_iff {source target kind : String} :
    readStructured source target kind = .ok link ↔
      (⟨source, target, kind⟩ : Link) = link ∧ link.IsPlain := by
  constructor
  · intro h
    have hread : (Pattern.structured source target kind).read = .ok link := h
    have plain : link.IsPlain := isPlain_of_read hread
    simp only [readStructured] at h
    split at h
    · cases h
    · split at h
      · cases h
      · split at h
        · cases h
        · exact ⟨Except.ok.inj h, plain⟩
  · rintro ⟨rfl, hsource, htarget, hkind⟩
    dsimp only at hsource htarget hkind
    simp [readStructured, hsource, htarget, hkind]

theorem readShorthand_forth_iff (written : Link) :
    readShorthand written.forth = .ok link ↔ written = link ∧ link.IsPlain := by
  constructor
  · intro h
    have hread : (Pattern.shorthand written.forth).read = .ok link := h
    have plain : link.IsPlain := isPlain_of_read hread
    have hspelled := spelling_of_readShorthand h
    rw [(trims_forth written).trim_eq] at hspelled
    exact ⟨Link.eq_of_forth plain hspelled, plain⟩
  · rintro ⟨rfl, plain⟩
    exact readShorthand_of_spelling plain (trims_forth written) (.inl rfl)

theorem readShorthand_back_iff (written : Link) :
    readShorthand written.back = .ok link ↔ written = link ∧ link.IsPlain := by
  constructor
  · intro h
    have hread : (Pattern.shorthand written.back).read = .ok link := h
    have plain : link.IsPlain := isPlain_of_read hread
    have hspelled := spelling_of_readShorthand h
    rw [(trims_back written).trim_eq] at hspelled
    exact ⟨Link.eq_of_back plain hspelled, plain⟩
  · rintro ⟨rfl, plain⟩
    exact readShorthand_of_spelling plain (trims_back written) (.inr rfl)

/-- Three texts, whatever they are, give the same link as parts of a pattern,
in the short form, and in the short form with its arrow turned: the link that
they are themselves, if it is plain, and none otherwise. -/
theorem forms_agree (source target kind : String) (link : Link) :
    let structured := Pattern.structured source target kind
    let forth := "(" ++ source ++ ")-[:" ++ kind ++ "]->(" ++ target ++ ")"
    let back := "(" ++ target ++ ")<-[:" ++ kind ++ "]-(" ++ source ++ ")"
    (structured.read = .ok link ↔ (Pattern.shorthand forth).read = .ok link) ∧
      (structured.read = .ok link ↔ (Pattern.shorthand back).read = .ok link) ∧
      (structured.read = .ok link ↔ ⟨source, target, kind⟩ = link ∧ link.IsPlain) := by
  intro structured forth back
  let written : Link := ⟨source, target, kind⟩
  have hstructured : structured.read = .ok link ↔ written = link ∧ link.IsPlain :=
    readStructured_iff
  have hforth : (Pattern.shorthand forth).read = .ok link ↔ written = link ∧ link.IsPlain :=
    readShorthand_forth_iff written
  have hback : (Pattern.shorthand back).read = .ok link ↔ written = link ∧ link.IsPlain :=
    readShorthand_back_iff written
  exact ⟨hstructured.trans hforth.symm, hstructured.trans hback.symm, hstructured⟩

end Pattern

end RowGraph
