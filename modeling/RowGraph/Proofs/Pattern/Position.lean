import RowGraph.Proofs.Pattern.Grammar

/-!
Where reading the short form stops, and what is said about it. The parts in
front of that place begin some form, in which the dashes may have a head each,
one of them, or none; each of these parts is as long as it can be there, and
behind them stands nothing that could continue the form. What could is what the
problem says was expected. Only a text that is a form to its end can be refused
for its dashes, and then the problem points behind the first alias.

Reading a slot takes the longest part that fills it, so that a text has no more
than one such beginning: what a problem may say about a text decides the
problem.
-/

namespace RowGraph.Pattern

open Reading (Stops)

variable {cs part next rest : List Char} {parts more : List (List Char)} {slot : Slot}
  {slots before after : List Slot}

/-- That nothing that fills a slot is in front of a text. -/
def Slot.Misses (slot : Slot) (cs : List Char) : Prop :=
  ∀ part, slot.Fills part → ¬part <+: cs

/-- That a part fills a slot, and nothing longer does so in front of the part
and what follows it. -/
structure Slot.Takes (slot : Slot) (part rest : List Char) : Prop where
  fills : slot.Fills part
  longest : ∀ longer, slot.Fills longer → longer <+: part ++ rest → longer.length ≤ part.length

/-- That the first of two tokens is the longer one. -/
def Slot.IsGreedy : Slot → Prop
  | .either first second => second.length ≤ first.length
  | _ => True

theorem shape_isGreedy : ∀ slot ∈ shape, slot.IsGreedy := by
  simp [shape, Slot.IsGreedy, ← String.length_toList]

theorem readToken_eq_none_iff {token : String} :
    readToken token cs = none ↔ ¬token.toList <+: cs := by
  simp [readToken]

theorem Slot.read_eq_none_iff : slot.read cs = none ↔ slot.Misses cs := by
  constructor
  · intro hnone part hpart hfront
    obtain ⟨rest, rfl⟩ := hfront
    cases slot with
    | token word =>
        obtain rfl : part = word.toList := hpart
        exact readToken_eq_none_iff.mp hnone (List.prefix_append _ _)
    | either first second =>
        rw [Slot.read] at hnone
        obtain ⟨hfirst, hsecond⟩ : readToken first (part ++ rest) = none ∧
            readToken second (part ++ rest) = none := by simpa using hnone
        rcases hpart with rfl | rfl
        · exact readToken_eq_none_iff.mp hfirst (List.prefix_append _ _)
        · exact readToken_eq_none_iff.mp hsecond (List.prefix_append _ _)
    | aliasName =>
        cases part with
        | nil => cases hpart
        | cons c name =>
            obtain ⟨hstart, -⟩ : Text.isNameStart c = true ∧ name.all Text.isNameChar = true := by
              simpa only [Slot.Fills, Text.isNameChars, Bool.and_eq_true] using hpart
            simp [Slot.read, hstart] at hnone
    | kind =>
        cases part with
        | nil => cases hpart
        | cons c kind =>
            obtain ⟨hkind, -⟩ : isKindChar c = true ∧ ∀ d ∈ kind, isKindChar d = true := by
              simpa [Slot.Fills, isKindChars] using hpart
            simp [Slot.read, hkind] at hnone
  · intro misses
    cases hread : slot.read cs with
    | none => rfl
    | some found =>
        obtain ⟨part, rest⟩ := found
        obtain ⟨hpart, rfl⟩ := Slot.fills_of_read hread
        exact absurd (List.prefix_append part rest) (misses part hpart)

/-- Characters of one class in front of a text are no more than those up to the
first of another class. -/
theorem length_le_takeWhile {accept : Char → Bool} {front : List Char}
    (hfront : ∀ c ∈ front, accept c = true) (h : front <+: cs) :
    front.length ≤ (cs.takeWhile accept).length := by
  obtain ⟨rest, rfl⟩ := h
  rw [List.takeWhile_append_of_pos hfront, List.length_append]
  exact Nat.le_add_right _ _

/-- What is read for a slot is the longest part that fills it there. -/
theorem Slot.length_le_of_read {longer : List Char} (greedy : slot.IsGreedy)
    (hread : slot.read cs = some (part, rest)) (hlonger : slot.Fills longer)
    (hfront : longer <+: cs) : longer.length ≤ part.length := by
  cases slot with
  | token word =>
      obtain rfl : longer = word.toList := hlonger
      obtain ⟨rfl, -⟩ := fills_of_readToken hread
      exact le_rfl
  | either first second =>
      have hlengths : second.toList.length ≤ first.toList.length := by
        simpa only [Slot.IsGreedy, String.length_toList] using greedy
      rw [Slot.read] at hread
      cases hfirst : readToken first cs with
      | some found =>
          obtain rfl : found = (part, rest) := by simpa [hfirst] using hread
          obtain ⟨rfl, -⟩ := fills_of_readToken hfirst
          rcases hlonger with rfl | rfl
          · exact le_rfl
          · exact hlengths
      | none =>
          have hsecond : readToken second cs = some (part, rest) := by simpa [hfirst] using hread
          obtain ⟨rfl, -⟩ := fills_of_readToken hsecond
          rcases hlonger with rfl | rfl
          · exact absurd hfront (readToken_eq_none_iff.mp hfirst)
          · exact le_rfl
  | aliasName =>
      cases longer with
      | nil => exact Nat.zero_le _
      | cons c name =>
          obtain ⟨rest', rfl⟩ := hfront
          obtain ⟨hstart, hname⟩ : Text.isNameStart c = true ∧
              ∀ d ∈ name, Text.isNameChar d = true := by
            simpa [Slot.Fills, Text.isNameChars] using hlonger
          obtain ⟨rfl, -⟩ : c :: (name ++ rest').takeWhile Text.isNameChar = part ∧
              (name ++ rest').dropWhile Text.isNameChar = rest := by
            simpa [Slot.read, hstart] using hread
          exact Nat.succ_le_succ (length_le_takeWhile hname (List.prefix_append name rest'))
  | kind =>
      obtain ⟨-, hkind⟩ : longer ≠ [] ∧ ∀ d ∈ longer, isKindChar d = true := by
        simpa [Slot.Fills, isKindChars] using hlonger
      simp only [Slot.read] at hread
      split at hread
      · cases hread
      · obtain ⟨rfl, -⟩ : cs.takeWhile isKindChar = part ∧ cs.dropWhile isKindChar = rest := by
          simpa using hread
        exact length_le_takeWhile hkind hfront

theorem Slot.read_eq_some_iff (greedy : slot.IsGreedy) :
    slot.read cs = some (part, rest) ↔ slot.Takes part rest ∧ cs = part ++ rest := by
  constructor
  · intro hread
    obtain ⟨hpart, rfl⟩ := Slot.fills_of_read hread
    refine ⟨⟨hpart, ?_⟩, rfl⟩
    intro longer hlonger hfront
    exact Slot.length_le_of_read greedy hread hlonger hfront
  · rintro ⟨takes, rfl⟩
    cases hread : slot.read (part ++ rest) with
    | none =>
        exact absurd (List.prefix_append part rest)
          (Slot.read_eq_none_iff.mp hread part takes.fills)
    | some found =>
        -- What is read is as long as the part, and both are in front of one text.
        obtain ⟨read, left⟩ := found
        obtain ⟨hfills, htext⟩ := Slot.fills_of_read hread
        have hlonger : part.length ≤ read.length :=
          Slot.length_le_of_read greedy hread takes.fills (List.prefix_append part rest)
        have hshorter : read.length ≤ part.length :=
          takes.longest read hfills (htext ▸ List.prefix_append read left)
        obtain ⟨rfl, rfl⟩ := List.append_inj htext (Nat.le_antisymm hlonger hshorter)
        rfl

/-- That parts fill slots in front of a text, each as far as it goes. -/
inductive Leads : List Slot → List (List Char) → List Char → Prop
  | nil {rest : List Char} : Leads [] [] rest
  | cons {slot : Slot} {slots : List Slot} {part rest : List Char} {parts : List (List Char)}
      (takes : slot.Takes part (parts.flatten ++ rest)) (leads : Leads slots parts rest) :
      Leads (slot :: slots) (part :: parts) rest

theorem Leads.fills (leads : Leads slots parts rest) : List.Forall₂ Slot.Fills slots parts := by
  induction leads with
  | nil => exact List.Forall₂.nil
  | cons takes _ ih => exact List.Forall₂.cons takes.fills ih

/-- Slots are all read exactly if parts that fill them lead up to the rest. -/
theorem readSlots_eq_ok_iff (greedy : ∀ slot ∈ slots, slot.IsGreedy) :
    readSlots slots cs = .ok (parts, rest) ↔
      Leads slots parts rest ∧ cs = parts.flatten ++ rest := by
  induction slots generalizing cs parts with
  | nil =>
      constructor
      · intro h
        obtain ⟨rfl, rfl⟩ : [] = parts ∧ cs = rest := by simpa [readSlots] using h
        exact ⟨.nil, rfl⟩
      · rintro ⟨leads, rfl⟩
        cases leads
        rfl
  | cons slot slots ih =>
      obtain ⟨hslot, hslots⟩ := List.forall_mem_cons.mp greedy
      constructor
      · intro h
        rw [readSlots] at h
        cases hpart : slot.read cs with
        | none => simp [hpart] at h
        | some found =>
            obtain ⟨part, left⟩ := found
            cases hmore : readSlots slots left with
            | error stop => simp [hpart, hmore] at h
            | ok found =>
                obtain ⟨more, last⟩ := found
                obtain ⟨rfl, rfl⟩ : part :: more = parts ∧ last = rest := by
                  simpa [hpart, hmore] using h
                obtain ⟨takes, rfl⟩ := (Slot.read_eq_some_iff hslot).mp hpart
                obtain ⟨leads, rfl⟩ := (ih hslots).mp hmore
                exact ⟨.cons takes leads, by rw [List.flatten_cons, List.append_assoc]⟩
      · rintro ⟨leads, rfl⟩
        cases leads with
        | cons takes leads =>
            have hpart := (Slot.read_eq_some_iff hslot).mpr ⟨takes, rfl⟩
            have hmore := (ih hslots).mpr ⟨leads, rfl⟩
            rw [List.flatten_cons, List.append_assoc, readSlots, hpart]
            simp only [hmore]

/-- A slot is the one that is missed exactly if parts that fill the slots before
it lead up to a text in front of which nothing fills it. -/
theorem readSlots_eq_error_iff (greedy : ∀ slot ∈ slots, slot.IsGreedy) :
    readSlots slots cs = .error (slot, rest) ↔
      ∃ before after parts, slots = before ++ slot :: after ∧ Leads before parts rest ∧
        cs = parts.flatten ++ rest ∧ slot.Misses rest := by
  induction slots generalizing cs with
  | nil => simp [readSlots]
  | cons first slots ih =>
      obtain ⟨hfirst, hslots⟩ := List.forall_mem_cons.mp greedy
      constructor
      · intro h
        rw [readSlots] at h
        cases hpart : first.read cs with
        | none =>
            obtain ⟨rfl, rfl⟩ : first = slot ∧ cs = rest := by simpa [hpart] using h
            exact ⟨[], slots, [], rfl, .nil, rfl, Slot.read_eq_none_iff.mp hpart⟩
        | some found =>
            obtain ⟨part, left⟩ := found
            cases hmore : readSlots slots left with
            | ok found => simp [hpart, hmore] at h
            | error stop =>
                obtain rfl : stop = (slot, rest) := by simpa [hpart, hmore] using h
                obtain ⟨takes, rfl⟩ := (Slot.read_eq_some_iff hfirst).mp hpart
                obtain ⟨before, after, parts, rfl, leads, rfl, misses⟩ := (ih hslots).mp hmore
                exact ⟨first :: before, after, part :: parts, rfl, .cons takes leads,
                  by rw [List.flatten_cons, List.append_assoc], misses⟩
      · rintro ⟨before, after, parts, hshape, leads, rfl, misses⟩
        cases leads with
        | nil =>
            obtain ⟨rfl, rfl⟩ : first = slot ∧ slots = after := by simpa using hshape
            have hnone := Slot.read_eq_none_iff.mpr misses
            rw [List.flatten_nil, List.nil_append, readSlots, hnone]
        | @cons _ before part _ parts takes leads =>
            obtain ⟨rfl, rfl⟩ : first = _ ∧ slots = before ++ slot :: after := by
              simpa using hshape
            have hpart := (Slot.read_eq_some_iff hfirst).mpr ⟨takes, rfl⟩
            have hmore := (ih hslots).mpr ⟨before, after, parts, rfl, leads, rfl, misses⟩
            rw [List.flatten_cons, List.append_assoc, readSlots, hpart]
            simp only [hmore]

inductive IsForm : List (List Char) → Prop
  | intro {left back kind forth right : List Char} (left_plain : Text.isNameChars left = true)
      (back_dash : back = "<-".toList ∨ back = "-".toList)
      (kind_plain : isKindChars kind = true)
      (forth_dash : forth = "->".toList ∨ forth = "-".toList)
      (right_plain : Text.isNameChars right = true) : IsForm (partsOf left back kind forth right)

/-- The parts of a form are those that fill the slots. -/
theorem isForm_iff : IsForm parts ↔ List.Forall₂ Slot.Fills shape parts := by
  constructor
  · rintro ⟨hleft, hback, hkind, hforth, hright⟩
    exact .cons rfl (.cons hleft (.cons rfl (.cons hback (.cons rfl (.cons hkind (.cons rfl
      (.cons hforth (.cons rfl (.cons hright (.cons rfl .nil))))))))))
  · intro h
    simp only [shape, List.forall₂_cons_left_iff, List.forall₂_nil_left_iff] at h
    obtain ⟨_, _, rfl, ⟨left, _, hleft, ⟨_, _, rfl, ⟨back, _, hback, ⟨_, _, rfl, ⟨kind, _, hkind,
      ⟨_, _, rfl, ⟨forth, _, hforth, ⟨_, _, rfl, ⟨right, _, hright, ⟨_, _, rfl, rfl, rfl⟩, rfl⟩,
      rfl⟩, rfl⟩, rfl⟩, rfl⟩, rfl⟩, rfl⟩, rfl⟩, rfl⟩, rfl⟩ := h
    exact ⟨hleft, hback, hkind, hforth, hright⟩

theorem Slot.exists_fills (slot : Slot) : ∃ part, slot.Fills part := by
  cases slot with
  | token word => exact ⟨word.toList, rfl⟩
  | either first second => exact ⟨first.toList, .inl rfl⟩
  | aliasName => exact ⟨['_'], show Text.isNameChars ['_'] = true by decide⟩
  | kind => exact ⟨['_'], show isKindChars ['_'] = true by decide⟩

theorem exists_forall₂_fills (slots : List Slot) :
    ∃ parts, List.Forall₂ Slot.Fills slots parts := by
  induction slots with
  | nil => exact ⟨[], .nil⟩
  | cons slot slots ih =>
      obtain ⟨part, hpart⟩ := slot.exists_fills
      obtain ⟨parts, hparts⟩ := ih
      exact ⟨part :: parts, .cons hpart hparts⟩

/-- Behind the parts of some slots, what fills the next slot is what a form can
go on with. -/
theorem fills_iff_isForm (hshape : shape = before ++ slot :: after)
    (hparts : List.Forall₂ Slot.Fills before parts) :
    slot.Fills next ↔ ∃ more, IsForm (parts ++ next :: more) := by
  constructor
  · intro hnext
    obtain ⟨more, hmore⟩ := exists_forall₂_fills after
    refine ⟨more, isForm_iff.mpr ?_⟩
    rw [hshape]
    exact List.rel_append hparts (.cons hnext hmore)
  · rintro ⟨more, hform⟩
    rw [isForm_iff, hshape] at hform
    have hrest := List.forall₂_drop_append _ _ _ hform
    rw [← hparts.length_eq, List.drop_left] at hrest
    exact (List.forall₂_cons.mp hrest).1

def expectations : List Expected :=
  .oneDirection :: .finish :: shape.map .slot

/-- That a text is refused at an offset with something expected there. -/
inductive Refused (text : String) : Nat → Expected → Prop
  /-- A form with a head at both dashes or at none, at the end of its first
  round brackets. -/
  | direction {left kind right : String} (left_plain : Text.isName left = true)
      (kind_plain : isKindChars kind.toList = true) (right_plain : Text.isName right = true)
      (spelled : text = "(" ++ left ++ ")<-[:" ++ kind ++ "]->(" ++ right ++ ")" ∨
        text = "(" ++ left ++ ")-[:" ++ kind ++ "]-(" ++ right ++ ")") :
      Refused text ("(" ++ left ++ ")").utf8ByteSize .oneDirection
  /-- The parts with which a form begins, and none of those with which it could
  go on. -/
  | slot {before after : List Slot} {slot : Slot} {front rest : String}
      {parts : List (List Char)} (written : text = front ++ rest)
      (divided : front.toList = parts.flatten) (begins : ∃ more, IsForm (parts ++ more))
      (place : shape = before ++ slot :: after) (leads : Leads before parts rest.toList)
      (named : ∀ next, slot.Fills next ↔ ∃ more, IsForm (parts ++ next :: more))
      (misses : slot.Misses rest.toList) :
      Refused text front.utf8ByteSize (.slot slot)
  /-- A whole form, and more behind it. -/
  | finish {front rest : String} {parts : List (List Char)} (written : text = front ++ rest)
      (divided : front.toList = parts.flatten) (whole : IsForm parts)
      (leads : Leads shape parts rest.toList) (more : rest ≠ "") :
      Refused text front.utf8ByteSize .finish

theorem Refused.mem_expectations {text : String} {offset : Nat} {expected : Expected}
    (refused : Refused text offset expected) : expected ∈ expectations := by
  cases refused with
  | direction => exact List.mem_cons_self
  | @slot before after slot _ _ _ _ _ _ place =>
      have member : slot ∈ shape := by simp [place]
      exact List.mem_cons_of_mem _ (List.mem_cons_of_mem _ (List.mem_map_of_mem member))
  | finish => exact List.mem_cons_of_mem _ List.mem_cons_self

/-- The wording of what is expected tells what it is. -/
theorem text_injOn_expectations : ∀ first ∈ expectations, ∀ second ∈ expectations,
    first.text = second.text → first = second := by
  decide

theorem offset_behind (front rest : List Char) :
    byteLength (front ++ rest) - byteLength rest = (String.ofList front).utf8ByteSize := by
  rw [byteLength_append, ← byteLength_eq]
  omega

theorem offset_behind_alias (left : String) :
    byteLength ["(".toList, left.toList, ")".toList].flatten =
      ("(" ++ left ++ ")").utf8ByteSize := by
  rw [byteLength_eq]
  congr 1
  simp [← String.toList_inj]

theorem toList_twoHeads (left kind right : String) :
    ("(" ++ left ++ ")<-[:" ++ kind ++ "]->(" ++ right ++ ")").toList =
      (partsOf left.toList "<-".toList kind.toList "->".toList right.toList).flatten := by
  simp [partsOf]

theorem toList_noHead (left kind right : String) :
    ("(" ++ left ++ ")-[:" ++ kind ++ "]-(" ++ right ++ ")").toList =
      (partsOf left.toList "-".toList kind.toList "-".toList right.toList).flatten := by
  simp [partsOf]

/-- Parts of a form that make no link have a head at both dashes or at none. -/
theorem dashes_of_linkOf?_eq_none (form : IsForm parts) (h : linkOf? parts = none) :
    ∃ left kind right : String, Text.isName left = true ∧ isKindChars kind.toList = true ∧
      Text.isName right = true ∧
      (parts = partsOf left.toList "<-".toList kind.toList "->".toList right.toList ∨
        parts = partsOf left.toList "-".toList kind.toList "-".toList right.toList) := by
  obtain @⟨left, back, kind, forth, right, hleft, hback, hkind, hforth, hright⟩ := form
  refine ⟨String.ofList left, String.ofList kind, String.ofList right, ?_⟩
  simp only [Text.isName, String.toList_ofList]
  refine ⟨hleft, hkind, hright, ?_⟩
  rcases hback with rfl | rfl
  · rcases hforth with rfl | rfl
    · exact Or.inl rfl
    · cases h
  · rcases hforth with rfl | rfl
    · cases h
    · exact Or.inr rfl

/-- What reading says about a text that it refuses is true of the text. -/
theorem refused_of_readShorthand {text : String} {problem : Malformed}
    (h : readShorthand text = .error problem) :
    Refused problem.pattern problem.offset problem.expected := by
  simp only [readShorthand] at h
  split at h
  · rename_i slot rest hslots
    obtain ⟨before, after, parts, hshape, leads, hcs, misses⟩ :=
      (readSlots_eq_error_iff shape_isGreedy).mp hslots
    have named (next : List Char) : slot.Fills next ↔ ∃ more, IsForm (parts ++ next :: more) :=
      fills_iff_isForm hshape leads.fills
    obtain ⟨next, hnext⟩ := slot.exists_fills
    obtain ⟨more, begins⟩ := (named next).mp hnext
    obtain rfl := Except.error.inj h
    dsimp only
    rw [hcs, offset_behind]
    refine .slot String.ofList_append String.toList_ofList ⟨_, begins⟩ hshape ?_ named ?_
    · rwa [String.toList_ofList]
    · rwa [String.toList_ofList]
  · rename_i parts c rest hslots
    obtain ⟨leads, hcs⟩ := (readSlots_eq_ok_iff shape_isGreedy).mp hslots
    obtain rfl := Except.error.inj h
    dsimp only
    rw [hcs, offset_behind]
    refine .finish String.ofList_append String.toList_ofList (isForm_iff.mpr leads.fills) ?_ ?_
    · rwa [String.toList_ofList]
    · simp
  · rename_i parts hslots
    obtain ⟨leads, hcs⟩ := (readSlots_eq_ok_iff shape_isGreedy).mp hslots
    split at h
    · cases h
    · rename_i hlink
      obtain rfl := Except.error.inj h
      obtain ⟨left, kind, right, hleft, hkind, hright, hparts⟩ :=
        dashes_of_linkOf?_eq_none (isForm_iff.mpr leads.fills) hlink
      rw [List.append_nil] at hcs
      dsimp only
      rcases hparts with rfl | rfl
      · rw [hcs, ← toList_twoHeads, String.ofList_toList]
        exact offset_behind_alias left ▸ .direction hleft hkind hright (.inl rfl)
      · rw [hcs, ← toList_noHead, String.ofList_toList]
        exact offset_behind_alias left ▸ .direction hleft hkind hright (.inr rfl)

theorem readShorthand_of_dashes {text core left : String} {back kind forth right : List Char}
    (hcore : Text.trimChars text.toList = core.toList)
    (hslots : readSlots shape core.toList = .ok (partsOf left.toList back kind forth right, []))
    (hlink : linkOf? (partsOf left.toList back kind forth right) = none) :
    readShorthand text = .error ⟨core, ("(" ++ left ++ ")").utf8ByteSize, .oneDirection⟩ := by
  have hoffset : byteLength ((partsOf left.toList back kind forth right).take 3).flatten =
      ("(" ++ left ++ ")").utf8ByteSize := offset_behind_alias left
  simp only [readShorthand, hcore, hslots, hlink, hoffset, String.ofList_toList]

/-- A text of which this is true is refused by reading. -/
theorem readShorthand_of_refused {text core : String} {offset : Nat} {expected : Expected}
    (hcore : Text.trimChars text.toList = core.toList) (refused : Refused core offset expected) :
    readShorthand text = .error ⟨core, offset, expected⟩ := by
  cases refused with
  | @direction left kind right hleft hkind hright spelled =>
      rcases spelled with rfl | rfl
      · have hslots := readSlots_partsOf hleft hright hkind (.inl rfl) (.inl rfl)
        rw [← toList_twoHeads] at hslots
        exact readShorthand_of_dashes hcore hslots rfl
      · have hslots := readSlots_partsOf hleft hright hkind (.inr rfl) (.inr rfl)
        rw [← toList_noHead] at hslots
        exact readShorthand_of_dashes hcore hslots rfl
  | @slot before after slot front rest parts written divided _ place leads _ misses =>
      have hcs : core.toList = parts.flatten ++ rest.toList := by
        rw [written, String.toList_append, divided]
      have hslots : readSlots shape core.toList = .error (slot, rest.toList) :=
        (readSlots_eq_error_iff shape_isGreedy).mpr
          ⟨before, after, parts, place, leads, hcs, misses⟩
      have hoffset : byteLength core.toList - byteLength rest.toList = front.utf8ByteSize := by
        rw [hcs, offset_behind, ← divided, String.ofList_toList]
      simp only [readShorthand, hcore, hslots, hoffset, String.ofList_toList]
  | @finish front rest parts written divided _ leads more =>
      have hcs : core.toList = parts.flatten ++ rest.toList := by
        rw [written, String.toList_append, divided]
      obtain ⟨c, behind, hrest⟩ := List.exists_cons_of_ne_nil
        (mt String.toList_eq_nil_iff.mp more)
      have hslots : readSlots shape core.toList = .ok (parts, c :: behind) := by
        rw [← hrest]
        exact (readSlots_eq_ok_iff shape_isGreedy).mpr ⟨leads, hcs⟩
      have hoffset : byteLength core.toList - byteLength (c :: behind) = front.utf8ByteSize := by
        rw [← hrest, hcs, offset_behind, ← divided, String.ofList_toList]
      simp only [readShorthand, hcore, hslots, hoffset, String.ofList_toList]

/-- A text is refused with a problem exactly if the problem gives the text
without the blanks at its ends, an offset within it and between two of its
characters, and what is missing there: one head at the dashes of a form that is
otherwise whole, at the end of its first round brackets; or else, behind parts
that begin a form and are as long as they can be, the part with which the form
could go on, or the end of the text if the form is whole. The wording tells
which of these it is. -/
theorem readShorthand_refuses (text : String) (problem : Malformed) :
    readShorthand text = .error problem ↔
      problem.pattern = Text.trim text ∧
        problem.offset ≤ problem.pattern.utf8ByteSize ∧
        (String.Pos.Raw.mk problem.offset).IsValid problem.pattern ∧
        Refused problem.pattern problem.offset problem.expected ∧
        ∀ other ∈ expectations, other.text = problem.expected.text →
          other = problem.expected := by
  constructor
  · intro h
    obtain ⟨hpattern, hvalid⟩ := position_of_readShorthand_error h
    have hrefused := refused_of_readShorthand h
    refine ⟨hpattern, hvalid.le_utf8ByteSize, hvalid, hrefused, ?_⟩
    intro other member same
    exact text_injOn_expectations other member problem.expected hrefused.mem_expectations same
  · rintro ⟨hpattern, -, -, refused, -⟩
    apply readShorthand_of_refused _ refused
    rw [hpattern, Text.trim, String.toList_ofList]

example : ["(this)-[HAS_AUTHOR]->(author)", " (é)-[:T]->(b)", "(a)<-[:T]->(b)", "(a)-[:T]-",
    "(a)-[:T]->(b)…"].map (fun text =>
      match readShorthand text with
      | .ok _ => none
      | .error problem => some (problem.offset, problem.expected)) =
    [some (7, .slot (.token "[:")), some (1, .slot .aliasName), some (3, .oneDirection),
      some (9, .slot (.token "(")), some (13, .finish)] := by decide

end RowGraph.Pattern
