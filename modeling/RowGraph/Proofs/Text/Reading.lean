import RowGraph.Text.Reading

/-!
How reading steps meet text that was written for them. What a step finds at the
front of a text depends on what follows only where the two could run into each
other, so every law here carries a rest, and where it matters a condition on
the first character of that rest.

The main law is about lists: elements written with a separator in between are
read back one by one, up to the first place where no separator follows.
-/

namespace RowGraph.Reading

variable {α β Item : Type}

@[simp] theorem pure_apply (found : α) (cs : List Char) :
    (pure found : Reading α) cs = some (found, cs) := rfl

@[simp] theorem bind_apply (step : Reading α) (next : α → Reading β) (cs : List Char) :
    (step >>= next) cs = (step cs).bind fun found => next found.1 found.2 := rfl

/-- After a step that finds something, what follows reads the rest. -/
theorem bind_of_found {step : Reading α} {next : α → Reading β} {cs rest : List Char} {found : α}
    (h : step cs = some (found, rest)) : (step >>= next) cs = next found rest := by
  rw [bind_apply, h, Option.bind_some]

/-- After a step that finds nothing, nothing is read. -/
theorem bind_of_none {step : Reading α} {next : α → Reading β} {cs : List Char}
    (h : step cs = none) : (step >>= next) cs = none := by
  rw [bind_apply, h, Option.bind_none]

@[simp] theorem orElse_apply (first second : Reading α) (cs : List Char) :
    (first <|> second) cs = (first cs).or (second cs) := by
  change (first cs <|> second cs) = _
  cases first cs <;> rfl

@[simp] theorem optional_apply (step : Reading α) (cs : List Char) :
    (optional step : Reading (Option α)) cs =
      match step cs with
      | some found => some (some found.1, found.2)
      | none => some (none, cs) := by
  change (StateT.map some step cs <|> some (none, cs)) = _
  rw [StateT.map]
  cases step cs <;> rfl

@[simp] theorem finish_nil : finish [] = some ((), []) := rfl

@[simp] theorem mark_cons (c : Char) (rest : List Char) :
    mark c (c :: rest) = some ((), rest) := by
  simp [mark, oneOf]

theorem mark_of_head_ne {c : Char} {cs : List Char} (h : cs.head? ≠ some c) :
    mark c cs = none := by
  cases cs with
  | nil => rfl
  | cons d rest =>
      have hd : (d == c) = false := by simpa using h
      simp [mark, oneOf, hd]

theorem word_append (text : String) (rest : List Char) :
    word text (text.toList ++ rest) = some ((), rest) := by
  simp [word]

/-- A word is not found where its first character is not. -/
theorem word_of_head_ne {text : String} {cs : List Char} (hne : text.toList ≠ [])
    (h : cs.head? ≠ text.toList.head?) : word text cs = none := by
  obtain ⟨c, tail, htext⟩ := List.exists_cons_of_ne_nil hne
  cases cs with
  | nil => simp [word, htext]
  | cons d rest =>
      have hd : c ≠ d := by
        rintro rfl
        exact h (by simp [htext])
      simp [word, htext, hd]

/-- The text before the first character that is not accepted ends here. -/
def Stops (accept : Char → Bool) (rest : List Char) : Prop :=
  ∀ c ∈ rest.head?, accept c = false

theorem stops_nil {accept : Char → Bool} : Stops accept [] := by
  intro c hc
  simp at hc

theorem stops_cons {accept : Char → Bool} {c : Char} {rest : List Char}
    (h : accept c = false) : Stops accept (c :: rest) := by
  intro d hd
  obtain rfl : c = d := by simpa using hd
  exact h

/-- Accepted characters are taken up to where they stop. -/
theorem takeWhile_append_of_stops {accept : Char → Bool} {cs rest : List Char}
    (hall : ∀ c ∈ cs, accept c = true) (hstop : Stops accept rest) :
    (cs ++ rest).takeWhile accept = cs := by
  have hrest : rest.takeWhile accept = [] := by
    cases rest with
    | nil => rfl
    | cons c rest => simp [hstop c (by simp)]
  rw [List.takeWhile_append_of_pos hall, hrest, List.append_nil]

theorem dropWhile_append_of_stops {accept : Char → Bool} {cs rest : List Char}
    (hall : ∀ c ∈ cs, accept c = true) (hstop : Stops accept rest) :
    (cs ++ rest).dropWhile accept = rest := by
  have hrest : rest.dropWhile accept = rest := by
    cases rest with
    | nil => rfl
    | cons c rest => simp [hstop c (by simp)]
  rw [List.dropWhile_append_of_pos hall, hrest]

/-- One element, and the elements after it if a separator follows. -/
theorem separatedWithin_succ (element : Reading α) (between : Reading Unit) (fuel : Nat)
    (cs : List Char) :
    separatedWithin element between (fuel + 1) cs =
      (element cs).bind fun first =>
        match (between first.2).bind fun gap => separatedWithin element between fuel gap.2 with
        | some more => some (first.1 :: more.1, more.2)
        | none => some ([first.1], first.2) := by
  rw [separatedWithin, bind_apply]
  congr 1
  funext first
  rw [bind_apply, optional_apply, bind_apply]
  cases (between first.2).bind fun gap => separatedWithin element between fuel gap.2 <;> rfl

theorem separated_of_none {element : Reading α} {between : Reading Unit} {cs : List Char}
    (h : element cs = none) : separated element between cs = none := by
  rw [separated, separatedWithin_succ, h, Option.bind_none]

variable {element : Reading α} {between : Reading Unit} {sep rest : List Char}
  {write : Item → List Char} {found : Item → α} {Follows : List Char → Prop}

/-- Elements written with a separator in between are read back, given enough
fuel. `Follows` is what an element may run into without harm: the rest, and the
separator with another element after it. -/
theorem separatedWithin_intercalate {items : List Item} {fuel : Nat} (hne : items ≠ [])
    (hfuel : items.length ≤ fuel)
    (hread : ∀ item ∈ items, ∀ after, Follows after →
      element (write item ++ after) = some (found item, after))
    (hnext : ∀ item ∈ items, ∀ after, Follows (sep ++ (write item ++ after)))
    (hgap : ∀ after, between (sep ++ after) = some ((), after))
    (hrest : Follows rest)
    (hstop : ∀ after, between rest = some ((), after) → element after = none) :
    separatedWithin element between fuel (sep.intercalate (items.map write) ++ rest) =
      some (items.map found, rest) := by
  induction items generalizing fuel with
  | nil => exact absurd rfl hne
  | cons first more ih =>
      obtain ⟨fuel, rfl⟩ : ∃ left, fuel = left + 1 :=
        ⟨fuel - 1, by simp only [List.length_cons] at hfuel; omega⟩
      have hfirst := hread first (by simp)
      cases more with
      | nil =>
          -- Should the rest begin with a separator, no element comes after it.
          have hend : ((between rest).bind fun gap =>
              separatedWithin element between fuel gap.2) = none := by
            cases hbetween : between rest with
            | none => rfl
            | some gap =>
                have hnone : element gap.2 = none := hstop gap.2 hbetween
                cases fuel with
                | zero => rfl
                | succ fuel =>
                    simp only [Option.bind_some, separatedWithin_succ, hnone, Option.bind_none]
          simp only [List.map_cons, List.map_nil, List.intercalate_singleton,
            separatedWithin_succ, hfirst rest hrest, Option.bind_some, hend]
      | cons second tail =>
          have hlater := ih (by simp) (by simpa using hfuel)
            (fun item member => hread item (List.mem_cons_of_mem _ member))
            (fun item member => hnext item (List.mem_cons_of_mem _ member))
          -- The first element runs into the separator in front of the second.
          have hfollows :
              Follows (sep ++ (sep.intercalate ((second :: tail).map write) ++ rest)) := by
            cases tail with
            | nil => simpa using hnext second (by simp) rest
            | cons third tail =>
                simpa using hnext second (by simp)
                  (sep ++ (sep.intercalate ((third :: tail).map write) ++ rest))
          rw [List.map_cons, List.map_cons, List.intercalate_cons_cons, List.append_assoc,
            List.append_assoc, ← List.map_cons, separatedWithin_succ, hfirst _ hfollows]
          simp only [Option.bind_some, hgap, hlater]
          rfl

/-- Elements that all leave a trace are at most as many as the characters
written for them. -/
theorem length_le_intercalate {items : List Item} (hwrite : ∀ item ∈ items, write item ≠ []) :
    items.length ≤ (sep.intercalate (items.map write)).length := by
  induction items with
  | nil => simp
  | cons first more ih =>
      have hfirst : 0 < (write first).length :=
        List.length_pos_iff.mpr (hwrite first (by simp))
      have hmore := ih fun item member => hwrite item (List.mem_cons_of_mem _ member)
      cases more with
      | nil =>
          simp only [List.map_cons, List.map_nil, List.intercalate_singleton,
            List.length_cons, List.length_nil]
          omega
      | cons second tail =>
          simp only [List.map_cons, List.intercalate_cons_cons, List.length_append,
            List.length_cons] at hmore ⊢
          omega

/-- Elements written with a separator in between are read back. -/
theorem separated_intercalate {items : List Item} (hne : items ≠ [])
    (hwrite : ∀ item ∈ items, write item ≠ [])
    (hread : ∀ item ∈ items, ∀ after, Follows after →
      element (write item ++ after) = some (found item, after))
    (hnext : ∀ item ∈ items, ∀ after, Follows (sep ++ (write item ++ after)))
    (hgap : ∀ after, between (sep ++ after) = some ((), after))
    (hrest : Follows rest)
    (hstop : ∀ after, between rest = some ((), after) → element after = none) :
    separated element between (sep.intercalate (items.map write) ++ rest) =
      some (items.map found, rest) := by
  have hfuel : items.length ≤ (sep.intercalate (items.map write) ++ rest).length + 1 := by
    have hlength : items.length ≤ (sep.intercalate (items.map write)).length :=
      length_le_intercalate hwrite
    rw [List.length_append]
    omega
  exact separatedWithin_intercalate hne hfuel hread hnext hgap hrest hstop

end RowGraph.Reading
