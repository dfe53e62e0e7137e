import OneTable.Proofs.Sql.Reader

/-!
# Written texts and names end themselves

A text between single quotes and a name between back-quotes read back whole, and the reader stops
behind the closing mark, exactly if what follows does not begin with that mark
(`written_forms_delimit`). A mark directly behind would make a doubled one of it, and the reader
would go on. So neither way of writing makes two texts one.
-/

namespace OneTable.Sql

variable {s t name : String} {rest : List Char}

/-- A quote behind the closing one belongs to the text, which is longer then. -/
theorem textRest_escape_doubled (cs rest : List Char) :
    textRest (Literal.escape cs ++ Literal.quote :: Literal.quote :: rest) =
      (textRest rest).map fun p => (cs ++ Literal.quote :: p.1, p.2) := by
  have hquote : textRest (Literal.quote :: Literal.quote :: rest) =
      prepend Literal.quote (textRest rest) := by rw [textRest]
  rw [textRest_append, hquote, prepend, Option.map_map]
  rfl

theorem nameRest_encode_doubled (cs rest : List Char) :
    nameRest (cs.flatMap Ident.encodeChar ++ Ident.quote :: Ident.quote :: rest) =
      (nameRest rest).map fun p => (cs ++ Ident.quote :: p.1, p.2) := by
  have hquote : nameRest (Ident.quote :: Ident.quote :: rest) =
      prepend Ident.quote (nameRest rest) := by rw [nameRest]
  rw [nameRest_append, hquote, prepend, Option.map_map]
  rfl

/-- What has been read on behind a text is not the text. -/
theorem longer_ne (s : String) (c : Char) (r : Option (List Char × List Char)) (rest : List Char) :
    (r.map fun p => (String.ofList (s.toList ++ c :: p.1), p.2)) ≠ some (s, rest) := by
  intro h
  obtain ⟨p, -, hp⟩ := Option.map_eq_some_iff.1 h
  have hs : s.toList ++ c :: p.1 = s.toList := by
    rw [← String.toList_ofList (l := s.toList ++ c :: p.1), (Prod.mk.inj hp).1]
  exact absurd (congrArg List.length hs) (by simp)

theorem readText_escape_iff :
    readText (Literal.quote :: Literal.escape s.toList ++ Literal.quote :: rest) = some (s, rest) ↔
      rest.head? ≠ some Literal.quote := by
  refine ⟨fun hread hhead => ?_, readText_escape s⟩
  obtain ⟨more, rfl⟩ := List.head?_eq_some_iff.1 hhead
  rw [List.cons_append, readText, textRest_escape_doubled, Option.map_map] at hread
  exact longer_ne s Literal.quote (textRest more) _ hread

theorem readName_encode_iff :
    readName (Ident.encode name.toList ++ rest) = some (name, rest) ↔ EndsName rest := by
  refine ⟨fun hread hhead => ?_, readName_encode name rest⟩
  obtain ⟨more, rfl⟩ := List.head?_eq_some_iff.1 hhead
  rw [Ident.encode, List.append_assoc, List.cons_append, List.singleton_append, readName,
    nameRest_encode_doubled, Option.map_map] at hread
  exact longer_ne name Ident.quote (nameRest more) _ hread

theorem toList_escaped (s : String) : (Literal.escaped s).toList = Literal.escape s.toList :=
  String.toList_ofList

theorem escaped_injective : Function.Injective Literal.escaped := by
  intro s t h
  have hends : ([] : List Char).head? ≠ some Literal.quote := nofun
  have hs := readText_escape s hends
  rw [← toList_escaped, h, toList_escaped, readText_escape t hends] at hs
  exact (Prod.mk.inj (Option.some.inj hs)).1.symm

theorem quoted_injective : Function.Injective Ident.quoted := by
  intro s t h
  have hends : EndsName [] := by simp [EndsName]
  have hs := readName_encode s [] hends
  rw [← Ident.toList_quoted, h, Ident.toList_quoted, readName_encode t [] hends] at hs
  exact (Prod.mk.inj (Option.some.inj hs)).1.symm

/-- Started on an escaped text between quotes, the reader of texts returns exactly that text and
leaves exactly what follows, if this does not begin with a quote and not otherwise; the same holds
of the reader of names on a quoted name and back-quotes. Escaping and quoting are injective. -/
theorem written_forms_delimit :
    (∀ (s : String) (rest : List Char),
      readText (Literal.quote :: (Literal.escaped s).toList ++ Literal.quote :: rest) =
        some (s, rest) ↔ rest.head? ≠ some Literal.quote) ∧
    (∀ (name : String) (rest : List Char),
      readName ((Ident.quoted name).toList ++ rest) = some (name, rest) ↔
        rest.head? ≠ some Ident.quote) ∧
    Function.Injective Literal.escaped ∧ Function.Injective Ident.quoted := by
  refine ⟨fun s rest => ?_, fun name rest => ?_, escaped_injective, quoted_injective⟩
  · rw [toList_escaped]
    exact readText_escape_iff
  · rw [Ident.toList_quoted]
    exact readName_encode_iff

/-- A text of marks alone and a name of back-quotes read back before a comment, and a text before
another quote does not. -/
theorem written_forms_delimit_marks :
    readText "'\\\\\\'\\\x22\\0\\\\'-- '".toList = some ("\\'\x22\x00\\", "-- '".toList) ∧
    readName "\x60\x60\x60\x60\x60\x60' \x60".toList = some ("\x60\x60", "' \x60".toList) ∧
    readText "'a'' OR 1=1 -- '".toList ≠ some ("a", "' OR 1=1 -- '".toList) := by
  obtain ⟨htext, hname, -, -⟩ := written_forms_delimit
  refine ⟨(htext "\\'\x22\x00\\" "-- '".toList).2 (by decide),
    (hname "\x60\x60" "' \x60".toList).2 (by decide), fun h => ?_⟩
  exact (htext "a" "' OR 1=1 -- '".toList).1 h rfl

end OneTable.Sql
