import Mathlib.Data.List.Forall2
import RowGraph.Pattern

/-!
What a pattern that can be read is made of. Reading the short form splits the
text into parts, one for each slot, and loses no character; the parts that fill
the slots of aliases and kinds are plain. Hence the link of a pattern, in
either form, has plain aliases and a plain kind.
-/

namespace RowGraph

namespace Pattern

def Slot.Fills : Slot → List Char → Prop
  | .token text, part => part = text.toList
  | .either first second, part => part = first.toList ∨ part = second.toList
  | .aliasName, part => Text.isNameChars part = true
  | .kind, part => isKindChars part = true

theorem fills_of_readToken {token : String} {cs part rest : List Char}
    (h : readToken token cs = some (part, rest)) :
    part = token.toList ∧ cs = part ++ rest := by
  unfold readToken at h
  split at h
  · rename_i hprefix
    obtain ⟨tail, rfl⟩ := List.isPrefixOf_iff_prefix.mp hprefix
    rw [← String.length_toList, List.drop_left] at h
    obtain ⟨rfl, rfl⟩ : token.toList = part ∧ tail = rest := by simpa using h
    exact ⟨rfl, rfl⟩
  · cases h

/-- What is read for a slot fills it and was in front of the text. -/
theorem Slot.fills_of_read {slot : Slot} {cs part rest : List Char}
    (h : slot.read cs = some (part, rest)) : slot.Fills part ∧ cs = part ++ rest := by
  cases slot with
  | token text => exact fills_of_readToken h
  | either first second =>
      rw [Slot.read] at h
      cases hfirst : readToken first cs with
      | some found =>
          obtain rfl : found = (part, rest) := by simpa [hfirst] using h
          have ⟨hpart, hcs⟩ := fills_of_readToken hfirst
          exact ⟨Or.inl hpart, hcs⟩
      | none =>
          have hsecond : readToken second cs = some (part, rest) := by simpa [hfirst] using h
          have ⟨hpart, hcs⟩ := fills_of_readToken hsecond
          exact ⟨Or.inr hpart, hcs⟩
  | aliasName =>
      cases cs with
      | nil => cases h
      | cons c tail =>
          rw [Slot.read] at h
          split at h
          · rename_i hstart
            obtain ⟨rfl, rfl⟩ : c :: tail.takeWhile Text.isNameChar = part ∧
                tail.dropWhile Text.isNameChar = rest := by simpa using h
            refine ⟨?_, by rw [List.cons_append, List.takeWhile_append_dropWhile]⟩
            have hall : (tail.takeWhile Text.isNameChar).all Text.isNameChar = true :=
              List.all_takeWhile
            simp [Slot.Fills, Text.isNameChars, hstart, hall]
          · cases h
  | kind =>
      simp only [Slot.read] at h
      split at h
      · cases h
      · rename_i hne
        obtain ⟨rfl, rfl⟩ : cs.takeWhile isKindChar = part ∧
            cs.dropWhile isKindChar = rest := by simpa using h
        refine ⟨?_, List.takeWhile_append_dropWhile.symm⟩
        have hall : (cs.takeWhile isKindChar).all isKindChar = true := List.all_takeWhile
        simp [Slot.Fills, isKindChars, hne, hall]

/-- What is read for slots fills them one by one and was in front of the
text. -/
theorem fills_of_readSlots {slots : List Slot} {cs rest : List Char} {parts : List (List Char)}
    (h : readSlots slots cs = .ok (parts, rest)) :
    List.Forall₂ Slot.Fills slots parts ∧ cs = parts.flatten ++ rest := by
  induction slots generalizing cs parts with
  | nil =>
      obtain ⟨rfl, rfl⟩ : [] = parts ∧ cs = rest := by simpa [readSlots] using h
      exact ⟨List.Forall₂.nil, rfl⟩
  | cons slot slots ih =>
      rw [readSlots] at h
      cases hpart : slot.read cs with
      | none => simp [hpart] at h
      | some found =>
          obtain ⟨part, left⟩ := found
          cases hmore : readSlots slots left with
          | error stop => simp [hpart, hmore] at h
          | ok found =>
              obtain ⟨more, last⟩ := found
              obtain ⟨rfl, rfl⟩ : part :: more = parts ∧ last = rest := by
                simpa [hpart, hmore] using h
              have ⟨hfills, hcs⟩ := Slot.fills_of_read hpart
              have ⟨hall, hleft⟩ := ih hmore
              refine ⟨List.Forall₂.cons hfills hall, ?_⟩
              rw [hcs, hleft, List.flatten_cons, List.append_assoc]

end Pattern

/-- A link whose aliases and kind may stand in a statement as they are. -/
structure Link.IsPlain (link : Link) : Prop where
  source : Text.isName link.source = true
  target : Text.isName link.target = true
  kind : Pattern.isKindChars link.kind.toList = true

namespace Pattern

/-- Parts that fill the slots of the short form make a plain link. -/
theorem isPlain_of_linkOf? {parts : List (List Char)} {link : Link}
    (hparts : List.Forall₂ Slot.Fills shape parts) (h : linkOf? parts = some link) :
    link.IsPlain := by
  -- Of the eleven parts the two aliases and the kind matter.
  simp only [shape, List.forall₂_cons_left_iff, List.forall₂_nil_left_iff] at hparts
  obtain ⟨_, _, -, ⟨left, _, hleft, ⟨_, _, -, ⟨back, _, -, ⟨_, _, -, ⟨kind, _, hkind, ⟨_, _, -,
    ⟨forth, _, -, ⟨_, _, -, ⟨right, _, hright, ⟨_, _, -, rfl, rfl⟩, rfl⟩, rfl⟩, rfl⟩, rfl⟩,
    rfl⟩, rfl⟩, rfl⟩, rfl⟩, rfl⟩, rfl⟩ := hparts
  have hends : link = ⟨String.ofList left, String.ofList right, String.ofList kind⟩ ∨
      link = ⟨String.ofList right, String.ofList left, String.ofList kind⟩ := by
    simp only [linkOf?] at h
    split at h
    · exact Or.inl (Option.some.inj h).symm
    · exact Or.inr (Option.some.inj h).symm
    · cases h
  have hname {cs : List Char} (hcs : Text.isNameChars cs = true) :
      Text.isName (String.ofList cs) = true := by
    rwa [Text.isName, String.toList_ofList]
  have hkind' : isKindChars (String.ofList kind).toList = true := by
    rwa [String.toList_ofList]
  rcases hends with rfl | rfl
  · exact ⟨hname hleft, hname hright, hkind'⟩
  · exact ⟨hname hright, hname hleft, hkind'⟩

/-- The link of a pattern is plain. -/
theorem isPlain_of_read {pattern : Pattern} {link : Link} (h : pattern.read = .ok link) :
    link.IsPlain := by
  cases pattern with
  | shorthand text =>
      simp only [read, readShorthand] at h
      cases hslots : readSlots shape (Text.trimChars text.toList) with
      | error stop => simp [hslots] at h
      | ok found =>
          obtain ⟨parts, rest⟩ := found
          cases rest with
          | cons c rest => simp [hslots] at h
          | nil =>
              cases hlink : linkOf? parts with
              | none => simp [hslots, hlink] at h
              | some found =>
                  obtain rfl : found = link := by simpa [hslots, hlink] using h
                  exact isPlain_of_linkOf? (fills_of_readSlots hslots).1 hlink
  | structured source target kind =>
      simp only [read, readStructured] at h
      split at h
      · cases h
      · rename_i hsource
        split at h
        · cases h
        · rename_i htarget
          split at h
          · cases h
          · rename_i hkind
            obtain rfl : Link.mk source target kind = link := by simpa using h
            exact ⟨by simpa using hsource, by simpa using htarget, by simpa using hkind⟩

end Pattern

end RowGraph
