import RowGraph.Proofs.Pattern.Links
import RowGraph.Proofs.Text.Trimming

/-!
The grammar of the short form. A link with plain aliases and a plain kind can
be written in two ways, with its arrow as it is and with its arrow turned.
Reading accepts a text exactly if it is one of the two with blanks around, and
gives back the link; every other text is refused at a place between two of its
characters.

Each part of a spelling ends where the next begins: the brackets and dashes
between the parts are neither name nor kind characters, so that the parts which
take all they can take no more than was written.
-/

namespace RowGraph

def Link.forth (link : Link) : String :=
  "(" ++ link.source ++ ")-[:" ++ link.kind ++ "]->(" ++ link.target ++ ")"

def Link.back (link : Link) : String :=
  "(" ++ link.target ++ ")<-[:" ++ link.kind ++ "]-(" ++ link.source ++ ")"

namespace Pattern

open Reading (Stops takeWhile_append_of_stops dropWhile_append_of_stops)

variable {cs part rest : List Char} {parts : List (List Char)} {slot : Slot} {slots : List Slot}

/-- That the text after a part does not belong to the part. -/
def Slot.Ends : Slot → List Char → List Char → Prop
  | .token _, _, _ => True
  | .either first _, part, rest => part = first.toList ∨ ¬first.toList <+: part ++ rest
  | .aliasName, _, rest => Stops Text.isNameChar rest
  | .kind, _, rest => Stops isKindChar rest

theorem readToken_append (token : String) (rest : List Char) :
    readToken token (token.toList ++ rest) = some (token.toList, rest) := by
  simp [readToken, ← String.length_toList]

theorem readToken_eq_none {token : String} (h : ¬token.toList <+: cs) :
    readToken token cs = none := by
  simp [readToken, h]

/-- A part that fills a slot and ends there is what is read for the slot. -/
theorem Slot.read_append (hpart : slot.Fills part) (hrest : slot.Ends part rest) :
    slot.read (part ++ rest) = some (part, rest) := by
  cases slot with
  | token word =>
      obtain rfl : part = word.toList := hpart
      exact readToken_append word rest
  | either first second =>
      rw [Slot.read]
      by_cases hfirst : part = first.toList
      · rw [hfirst, readToken_append]
        rfl
      · obtain rfl : part = second.toList := hpart.resolve_left hfirst
        rw [readToken_eq_none (hrest.resolve_left hfirst), readToken_append]
        rfl
  | aliasName =>
      cases part with
      | nil => cases hpart
      | cons c name =>
          obtain ⟨hstart, hname⟩ : Text.isNameStart c = true ∧
              ∀ d ∈ name, Text.isNameChar d = true := by
            simpa [Slot.Fills, Text.isNameChars] using hpart
          simp [Slot.read, hstart, takeWhile_append_of_stops hname hrest,
            dropWhile_append_of_stops hname hrest]
  | kind =>
      obtain ⟨hne, hkind⟩ : part ≠ [] ∧ ∀ d ∈ part, isKindChar d = true := by
        simpa [Slot.Fills, isKindChars] using hpart
      simp [Slot.read, hne, takeWhile_append_of_stops hkind hrest,
        dropWhile_append_of_stops hkind hrest]

theorem readSlots_cons (hpart : slot.Fills part) (hends : slot.Ends part cs)
    (hmore : readSlots slots cs = .ok (parts, rest)) :
    readSlots (slot :: slots) (part ++ cs) = .ok (part :: parts, rest) := by
  simp only [readSlots, Slot.read_append hpart hends, hmore]

def partsOf (left back kind forth right : List Char) : List (List Char) :=
  ["(".toList, left, ")".toList, back, "[:".toList, kind, "]".toList, forth, "(".toList, right,
    ")".toList]

theorem readSlots_partsOf {left kind right : List Char} {back forth : String}
    (hleft : Text.isNameChars left = true) (hright : Text.isNameChars right = true)
    (hkind : isKindChars kind = true) (hback : back = "<-" ∨ back = "-")
    (hforth : forth = "->" ∨ forth = "-") :
    readSlots shape (partsOf left back.toList kind forth.toList right).flatten =
      .ok (partsOf left back.toList kind forth.toList right, []) := by
  have hfirst : (Slot.either "<-" "-").Fills back.toList := by
    rcases hback with rfl | rfl
    · exact Or.inl rfl
    · exact Or.inr rfl
  have hsecond : (Slot.either "->" "-").Fills forth.toList := by
    rcases hforth with rfl | rfl
    · exact Or.inl rfl
    · exact Or.inr rfl
  -- A dash without a head is not the beginning of the arrow that is tried first.
  have hfirstEnds (rest : List Char) :
      (Slot.either "<-" "-").Ends back.toList ("[:".toList ++ rest) := by
    rcases hback with rfl | rfl
    · exact Or.inl rfl
    · exact Or.inr (by simp)
  have hsecondEnds (rest : List Char) :
      (Slot.either "->" "-").Ends forth.toList ("(".toList ++ rest) := by
    rcases hforth with rfl | rfl
    · exact Or.inl rfl
    · exact Or.inr (by simp)
  have hnameEnds (name rest : List Char) : Slot.aliasName.Ends name (")".toList ++ rest) :=
    Reading.stops_cons (by decide)
  have hkindEnds (rest : List Char) : Slot.kind.Ends kind ("]".toList ++ rest) :=
    Reading.stops_cons (by decide)
  refine readSlots_cons rfl trivial (readSlots_cons hleft (hnameEnds _ _) ?_)
  refine readSlots_cons rfl trivial (readSlots_cons hfirst (hfirstEnds _) ?_)
  refine readSlots_cons rfl trivial (readSlots_cons hkind (hkindEnds _) ?_)
  refine readSlots_cons rfl trivial (readSlots_cons hsecond (hsecondEnds _) ?_)
  refine readSlots_cons rfl trivial (readSlots_cons hright (hnameEnds _ _) ?_)
  exact readSlots_cons rfl trivial rfl

theorem toList_forth (link : Link) :
    link.forth.toList = (partsOf link.source.toList "-".toList link.kind.toList "->".toList
      link.target.toList).flatten := by
  simp [Link.forth, partsOf]

theorem toList_back (link : Link) :
    link.back.toList = (partsOf link.target.toList "<-".toList link.kind.toList "-".toList
      link.source.toList).flatten := by
  simp [Link.back, partsOf]

/-- Both spellings of a plain link are read as the link. -/
theorem readShorthand_of_spelling {text core : String} {link : Link} (plain : link.IsPlain)
    (trims : Text.Trims text core) (spelled : core = link.forth ∨ core = link.back) :
    readShorthand text = .ok link := by
  have hcore : Text.trimChars text.toList = core.toList := by
    rw [← trims.trim_eq, Text.trim, String.toList_ofList]
  rcases spelled with rfl | rfl
  · have hslots := readSlots_partsOf plain.source plain.target plain.kind (.inr rfl) (.inl rfl)
    rw [← toList_forth, ← hcore] at hslots
    simp [readShorthand, hslots, partsOf, linkOf?]
  · have hslots := readSlots_partsOf plain.target plain.source plain.kind (.inl rfl) (.inr rfl)
    rw [← toList_back, ← hcore] at hslots
    simp [readShorthand, hslots, partsOf, linkOf?]

theorem exists_partsOf_of_fills {parts : List (List Char)}
    (h : List.Forall₂ Slot.Fills shape parts) :
    ∃ left back kind forth right, parts = partsOf left back kind forth right ∧
      (back = "<-".toList ∨ back = "-".toList) ∧ (forth = "->".toList ∨ forth = "-".toList) := by
  simp only [shape, List.forall₂_cons_left_iff, List.forall₂_nil_left_iff] at h
  obtain ⟨_, _, rfl, ⟨left, _, -, ⟨_, _, rfl, ⟨back, _, hback, ⟨_, _, rfl, ⟨kind, _, -, ⟨_, _, rfl,
    ⟨forth, _, hforth, ⟨_, _, rfl, ⟨right, _, -, ⟨_, _, rfl, rfl, rfl⟩, rfl⟩, rfl⟩, rfl⟩, rfl⟩,
    rfl⟩, rfl⟩, rfl⟩, rfl⟩, rfl⟩, rfl⟩ := h
  exact ⟨left, back, kind, forth, right, rfl, hback, hforth⟩

theorem spelling_of_linkOf? {link : Link} (hparts : List.Forall₂ Slot.Fills shape parts)
    (h : linkOf? parts = some link) :
    String.ofList parts.flatten = link.forth ∨ String.ofList parts.flatten = link.back := by
  obtain ⟨left, back, kind, forth, right, rfl, hback, hforth⟩ := exists_partsOf_of_fills hparts
  rcases hback with rfl | rfl
  · rcases hforth with rfl | rfl
    · cases h
    · obtain rfl := Option.some.inj h
      right
      rw [← String.toList_inj, toList_back]
      simp
  · rcases hforth with rfl | rfl
    · obtain rfl := Option.some.inj h
      left
      rw [← String.toList_inj, toList_forth]
      simp
    · cases h

/-- A text that is read as a link is one of its spellings, up to blanks at its
ends. -/
theorem spelling_of_readShorthand {text : String} {link : Link}
    (h : readShorthand text = .ok link) :
    Text.trim text = link.forth ∨ Text.trim text = link.back := by
  simp only [readShorthand] at h
  cases hslots : readSlots shape (Text.trimChars text.toList) with
  | error stop => simp [hslots] at h
  | ok found =>
      obtain ⟨parts, rest⟩ := found
      cases rest with
      | cons c rest => simp [hslots] at h
      | nil =>
          cases hlink : linkOf? parts with
          | none => simp [hslots, hlink] at h
          | some found =>
              obtain rfl : found = link := by simpa [hslots, hlink] using h
              obtain ⟨hfills, htext⟩ := fills_of_readSlots hslots
              rw [List.append_nil] at htext
              rw [Text.trim, htext]
              exact spelling_of_linkOf? hfills hlink

theorem byteLength_eq (cs : List Char) : byteLength cs = (String.ofList cs).utf8ByteSize := by
  induction cs with
  | nil => rfl
  | cons c rest ih =>
      rw [byteLength, ih, String.ofList_cons, String.utf8ByteSize_append,
        String.utf8ByteSize_singleton]

theorem byteLength_append (first second : List Char) :
    byteLength (first ++ second) = byteLength first + byteLength second := by
  simp only [byteLength_eq, String.ofList_append, String.utf8ByteSize_append]

/-- The slot that nothing fills is met behind the parts of the slots before
it. -/
theorem exists_before_of_readSlots_error (h : readSlots slots cs = .error (slot, rest)) :
    ∃ before, cs = before ++ rest := by
  induction slots generalizing cs with
  | nil => cases h
  | cons first slots ih =>
      rw [readSlots] at h
      cases hpart : first.read cs with
      | none =>
          obtain ⟨rfl, rfl⟩ : first = slot ∧ cs = rest := by simpa [hpart] using h
          exact ⟨[], rfl⟩
      | some found =>
          obtain ⟨part, left⟩ := found
          cases hmore : readSlots slots left with
          | ok found => simp [hpart, hmore] at h
          | error stop =>
              obtain rfl : stop = (slot, rest) := by simpa [hpart, hmore] using h
              obtain ⟨before, rfl⟩ := ih hmore
              obtain rfl := (Slot.fills_of_read hpart).2
              exact ⟨part ++ before, (List.append_assoc _ _ _).symm⟩

theorem isValid_byteLength (before after : List Char) :
    (String.Pos.Raw.mk (byteLength before)).IsValid (String.ofList (before ++ after)) := by
  rw [String.Pos.Raw.isValid_iff_exists_append, String.ofList_append]
  refine ⟨_, _, rfl, ?_⟩
  rw [byteLength_eq]
  rfl

/-- A text that is refused is refused without the blanks at its ends, at an
offset between two characters. -/
theorem position_of_readShorthand_error {text : String} {problem : Malformed}
    (h : readShorthand text = .error problem) :
    problem.pattern = Text.trim text ∧
      (String.Pos.Raw.mk problem.offset).IsValid problem.pattern := by
  have hbehind (before after : List Char) :
      byteLength (before ++ after) - byteLength after = byteLength before := by
    rw [byteLength_append]
    omega
  simp only [readShorthand] at h
  split at h
  · rename_i slot rest hslots
    obtain ⟨before, hcs⟩ := exists_before_of_readSlots_error hslots
    obtain rfl := Except.error.inj h
    refine ⟨rfl, ?_⟩
    rw [hcs]
    dsimp only
    rw [hbehind]
    exact isValid_byteLength before rest
  · rename_i parts c rest hslots
    have hcs := (fills_of_readSlots hslots).2
    obtain rfl := Except.error.inj h
    refine ⟨rfl, ?_⟩
    rw [hcs]
    dsimp only
    rw [hbehind]
    exact isValid_byteLength parts.flatten (c :: rest)
  · rename_i parts hslots
    have hcs := (fills_of_readSlots hslots).2
    rw [List.append_nil, ← List.take_append_drop 3 parts, List.flatten_append] at hcs
    split at h
    · cases h
    · obtain rfl := Except.error.inj h
      refine ⟨rfl, ?_⟩
      rw [hcs]
      exact isValid_byteLength (parts.take 3).flatten (parts.drop 3).flatten

/-- A text is read as a link exactly if the link is plain and the text is one
of its two spellings with blanks around; it is refused exactly if it spells no
link, and then at an offset between two characters of what the blanks are
around. -/
theorem readShorthand_accepts_spellings (text : String) :
    (∀ link, readShorthand text = .ok link ↔
      link.IsPlain ∧ ∃ core, Text.Trims text core ∧ (core = link.forth ∨ core = link.back)) ∧
    ((∃ link : Link, link.IsPlain ∧
        ∃ core, Text.Trims text core ∧ (core = link.forth ∨ core = link.back)) ∨
      ∃ problem, readShorthand text = .error problem ∧ Text.Trims text problem.pattern ∧
        (String.Pos.Raw.mk problem.offset).IsValid problem.pattern) := by
  have haccepts : ∀ link, readShorthand text = .ok link ↔
      link.IsPlain ∧ ∃ core, Text.Trims text core ∧ (core = link.forth ∨ core = link.back) := by
    intro link
    constructor
    · intro h
      have hread : (Pattern.shorthand text).read = .ok link := h
      have hplain : link.IsPlain := isPlain_of_read hread
      exact ⟨hplain, Text.trim text, Text.trims_trim text, spelling_of_readShorthand h⟩
    · rintro ⟨hplain, core, htrims, hspelled⟩
      exact readShorthand_of_spelling hplain htrims hspelled
  refine ⟨haccepts, ?_⟩
  cases hread : readShorthand text with
  | ok link =>
      exact Or.inl ⟨link, (haccepts link).mp hread⟩
  | error problem =>
      obtain ⟨hpattern, hoffset⟩ := position_of_readShorthand_error hread
      exact Or.inr ⟨problem, rfl, hpattern ▸ Text.trims_trim text, hoffset⟩

end Pattern

end RowGraph
