import RowGraph.Proofs.Pattern.Forms
import RowGraph.Proofs.Relationship.CompositeKey

/-!
Addresses of foreign keys. The alias of a column is a piece from the front of
its name: what is left out is at most an ending that says that the column holds
a key, and never the whole name. A front piece of a plain name is plain, so the
alias of a plain column can stand in a pattern. The aliases of a registered
table are distinct and none is the name of the row itself; a pattern between the
row and an alias therefore leads to the foreign key whose alias it is.
-/

namespace RowGraph

section Column

variable {back stem front behind : List Char}

/-- A stem is not empty, and what is cut off behind it is an ending. -/
theorem exists_ending_of_stemFromBack (h : stemFromBack back = some stem) :
    stem ≠ [] ∧ ∃ ending : List Char, back = ending.reverse ++ stem ∧
      (Text.sameName (String.ofList ending) "_id" = true ∨ String.ofList ending = "Id") := by
  unfold stemFromBack at h
  split at h
  · rename_i d i c rest
    split at h
    · rename_i hcase
      obtain ⟨hd, hi⟩ : d.toLower = 'd' ∧ i.toLower = 'i' := by simpa using hcase
      obtain rfl := Option.some.inj h
      refine ⟨List.cons_ne_nil c rest, ['_', i, d], rfl, Or.inl ?_⟩
      simp [Text.sameName, Text.lowerAscii, hd, hi]
    · cases h
  · split at h
    · obtain rfl := Option.some.inj h
      exact ⟨List.cons_ne_nil _ _, ['I', 'd'], rfl, Or.inr rfl⟩
    · cases h
  · cases h

/-- A column name is its alias and an ending, which may be empty. Only the
empty name has an empty alias. -/
theorem exists_ending_of_aliasOf (column : String) :
    (column ≠ "" → aliasOf column ≠ "") ∧ ∃ ending, column = aliasOf column ++ ending ∧
      (ending = "" ∨ Text.sameName ending "_id" = true ∨ ending = "Id") := by
  rw [aliasOf]
  cases hstem : stemFromBack column.toList.reverse with
  | none => exact ⟨id, "", String.append_empty.symm, Or.inl rfl⟩
  | some stem =>
      obtain ⟨hne, ending, hback, hending⟩ := exists_ending_of_stemFromBack hstem
      have hcolumn : column.toList = stem.reverse ++ ending := by
        rw [← List.reverse_reverse column.toList, hback, List.reverse_append,
          List.reverse_reverse]
      refine ⟨fun _ hempty => hne ?_, String.ofList ending, ?_, Or.inr hending⟩
      · simpa using congrArg String.toList hempty
      · rw [← String.toList_inj, hcolumn, String.toList_append, String.toList_ofList,
          String.toList_ofList]

example : ["AUTHOR_ID", "authorId", "éditeur_Id", "_id", "ID", "URLId"].map aliasOf =
    ["AUTHOR", "author", "éditeur", "_id", "ID", "URLId"] := by decide

/-- A piece from the front of a plain name is plain unless it is empty. -/
theorem isNameChars_of_append (hne : front ≠ [])
    (plain : Text.isNameChars (front ++ behind) = true) : Text.isNameChars front = true := by
  cases front with
  | nil => exact absurd rfl hne
  | cons c rest =>
      simp only [List.cons_append, Text.isNameChars, List.all_append, Bool.and_eq_true] at plain
      obtain ⟨hfirst, hrest, -⟩ := plain
      simp [Text.isNameChars, hfirst, hrest]

theorem isName_aliasOf {column : String} (plain : Text.isName column = true) :
    Text.isName (aliasOf column) = true := by
  obtain ⟨hempty, ending, hcolumn, -⟩ := exists_ending_of_aliasOf column
  have hne : column ≠ "" := by
    rintro rfl
    cases plain
  have hfront : (aliasOf column).toList ≠ [] := by
    rw [ne_eq, String.toList_eq_nil_iff]
    exact hempty hne
  have hchars : Text.isNameChars ((aliasOf column).toList ++ ending.toList) = true := by
    rw [← String.toList_append, ← hcolumn]
    exact plain
  exact isNameChars_of_append hfront hchars

/-- The alias ends between two characters of the name. -/
theorem isValid_aliasOf (column : String) :
    (String.Pos.Raw.mk (aliasOf column).utf8ByteSize).IsValid column := by
  obtain ⟨-, ending, hcolumn, -⟩ := exists_ending_of_aliasOf column
  rw [String.Pos.Raw.isValid_iff_exists_append]
  exact ⟨aliasOf column, ending, hcolumn, rfl⟩

end Column

/-- The link from a row to an alias is plain if the alias and the kind are. -/
theorem Link.isPlain_of_own {name kind : String} (hname : Text.isName name = true)
    (hkind : Pattern.isKindChars kind.toList = true) : Link.IsPlain ⟨Pattern.own, name, kind⟩ :=
  ⟨show Text.isName Pattern.own = true by decide, hname, hkind⟩

/-- A column name begins with its alias, and what follows is at most an ending;
the alias of a name that is not empty is not empty either, ends between two
characters, and is plain if the name is. Every foreign key with a plain column
that a registered table has is the one that its alias finds, and its alias is
the other end of the two patterns in which the row itself is an end. -/
theorem foreignKeys_addressed_by_alias :
    (∀ column,
      (∃ ending, column = aliasOf column ++ ending ∧
        (ending = "" ∨ Text.sameName ending "_id" = true ∨ ending = "Id")) ∧
      (column ≠ "" → aliasOf column ≠ "") ∧
      (String.Pos.Raw.mk (aliasOf column).utf8ByteSize).IsValid column ∧
      (Text.isName column = true → Text.isName (aliasOf column) = true)) ∧
    ∀ (registry : Registry), ∀ definition ∈ registry.tables, ∀ fk ∈ definition.foreignKeys,
      Text.isName fk.column = true →
        fk.alias ≠ Pattern.own ∧ definition.foreignKey? fk.alias = some fk ∧
        (∀ kind, Pattern.isKindChars kind.toList = true →
          (Pattern.shorthand ("(this)-[:" ++ kind ++ "]->(" ++ fk.alias ++ ")")).read =
            .ok ⟨Pattern.own, fk.alias, kind⟩ ∧
          (Pattern.shorthand ("(" ++ fk.alias ++ ")<-[:" ++ kind ++ "]-(this)")).read =
            .ok ⟨Pattern.own, fk.alias, kind⟩) ∧
        ∀ row, definition.endpoint registry row fk.alias =
          definition.foreignEndpoint registry row fk := by
  constructor
  · intro column
    obtain ⟨hempty, hending⟩ := exists_ending_of_aliasOf column
    exact ⟨hending, hempty, isValid_aliasOf column, isName_aliasOf⟩
  · rintro registry definition - fk declared plain
    refine ⟨definition.own_not_alias fk declared, TableDefinition.foreignKey?_alias declared, ?_,
      TableDefinition.endpoint_alias_eq declared registry⟩
    intro kind hkind
    let link : Link := ⟨Pattern.own, fk.alias, kind⟩
    have hlink : link.IsPlain := Link.isPlain_of_own (isName_aliasOf plain) hkind
    have hforth : Pattern.readShorthand link.forth = .ok link :=
      (Pattern.readShorthand_forth_iff link).mpr ⟨rfl, hlink⟩
    have hback : Pattern.readShorthand link.back = .ok link :=
      (Pattern.readShorthand_back_iff link).mpr ⟨rfl, hlink⟩
    refine ⟨hforth, ?_⟩
    have hspelled : link.back = "(" ++ fk.alias ++ ")<-[:" ++ kind ++ "]-(this)" := by
      rw [← String.toList_inj]
      simp [Link.back, link, Pattern.own]
    rw [← hspelled]
    exact hback

theorem swaps_addressed_by_alias :
    let fk : ForeignKey := ⟨0, "to_book_id", "editions", "book_id"⟩
    swapsDefinition ∈ swapsRegistry.tables ∧ fk ∈ swapsDefinition.foreignKeys ∧
      Text.isName fk.column = true ∧ Pattern.isKindChars "SWAPPED_FOR".toList = true ∧
      swapsDefinition.foreignKey? "to_book" = some fk ∧
      (Pattern.shorthand "(this)-[:SWAPPED_FOR]->(to_book)").read =
        .ok ⟨"this", "to_book", "SWAPPED_FOR"⟩ ∧
      (Pattern.shorthand "(to_book)<-[:SWAPPED_FOR]-(this)").read =
        .ok ⟨"this", "to_book", "SWAPPED_FOR"⟩ ∧
      ∀ row, swapsDefinition.endpoint swapsRegistry row "to_book" =
        swapsDefinition.foreignEndpoint swapsRegistry row fk := by
  intro fk
  have hregistered : swapsDefinition ∈ swapsRegistry.tables :=
    List.mem_cons_of_mem _ (List.mem_singleton_self _)
  have hdeclared : fk ∈ swapsDefinition.foreignKeys := by decide
  have hplain : Text.isName fk.column = true := by decide
  have hkind : Pattern.isKindChars "SWAPPED_FOR".toList = true := by decide
  have halias : fk.alias = "to_book" := by decide
  obtain ⟨-, hfound, hread, hendpoint⟩ := foreignKeys_addressed_by_alias.2 swapsRegistry
    swapsDefinition hregistered fk hdeclared hplain
  rw [halias] at hfound hread hendpoint
  obtain ⟨hforth, hback⟩ := hread "SWAPPED_FOR" hkind
  exact ⟨hregistered, hdeclared, hplain, hkind, hfound, hforth, hback, hendpoint⟩

end RowGraph
