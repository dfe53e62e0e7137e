import OneTable.Proofs.Statement.Beginning
import OneTable.Proofs.Text.Case
import OneTable.Text.Split

/-!
# The first word of a statement

A text that begins with nothing to pass over is classified by its longest run of ASCII letters,
digits and `_` at the start, compared with the keywords without regard to case, whatever follows
the run (`kind_of_first_word`). Whether a text begins with a keyword can be seen on bytes as well:
the letters of a keyword take one byte each, so a cut behind as many bytes either is behind the same
letters or falls among characters that are none (`opensWith_eq`).
-/

namespace OneTable.StatementKind

def keywords : StatementKind → List String
  | .select => ["SELECT"]
  | .insert => ["INSERT", "REPLACE"]
  | .update => ["UPDATE"]
  | .delete => ["DELETE"]
  | .show => ["SHOW", "DESCRIBE", "DESC"]
  | .other => []

/-- The first bytes of the text, as many as the keyword has, are whole characters that differ from
the keyword in case at most, and no word character follows them. -/
def opensWith (keyword : String) (cs : List Char) : Bool :=
  let head := Text.cut (Text.byteSize keyword.toList) cs
  Text.byteSize head == Text.byteSize keyword.toList &&
    Text.sameIgnoringCase (String.ofList head) keyword &&
    !(cs.drop head.length).head?.any Text.isWordChar

theorem mem_keywords {kind : StatementKind} {keyword : String} (h : keyword ∈ kind.keywords) :
    (∀ c ∈ keyword.toList, c.isAlpha = true) ∧ Text.upper keyword = keyword := by
  have hall : ∀ keyword ∈ kind.keywords, keyword.toList.all Char.isAlpha = true ∧
      keyword.toList.map Char.toUpper = keyword.toList := by
    cases kind <;> decide
  obtain ⟨hletters, hupper⟩ := hall keyword h
  exact ⟨List.all_eq_true.1 hletters, String.toList_inj.1 (by rw [Text.toList_upper, hupper])⟩

theorem ofWord_eq_iff {kind : StatementKind} (hkind : kind ≠ .other) (word : String) :
    ofWord word = kind ↔ ∃ keyword ∈ kind.keywords, Text.sameIgnoringCase word keyword = true := by
  have hsame : ∀ keyword ∈ kind.keywords,
      (Text.sameIgnoringCase word keyword = true ↔ Text.upper word = keyword) := by
    intro keyword h
    rw [Text.sameIgnoringCase_iff_upper, (mem_keywords h).2]
  rw [exists_congr fun keyword => and_congr_right (hsame keyword)]
  unfold ofWord
  split <;> rename_i h <;> cases kind <;> simp_all [keywords]

theorem isWordChar_of_isAlpha {c : Char} (h : c.isAlpha = true) : Text.isWordChar c = true := by
  simp [Text.isWordChar, Char.isAlphanum, h]

/-- The test on bytes is the comparison of the whole first word. -/
theorem opensWith_eq {keyword : String} (hkeyword : ∀ c ∈ keyword.toList, c.isAlpha = true)
    {word rest : List Char} (hword : ∀ c ∈ word, Text.isWordChar c = true)
    (hrest : ∀ c, rest.head? = some c → Text.isWordChar c = false) :
    opensWith keyword (word ++ rest) = Text.sameIgnoringCase (String.ofList word) keyword := by
  rw [Bool.eq_iff_iff]
  constructor
  · intro h
    unfold opensWith at h
    dsimp only at h
    set head := Text.cut (Text.byteSize keyword.toList) (word ++ rest)
    obtain ⟨⟨-, hsame⟩, hend⟩ : (_ ∧ Text.sameIgnoringCase (String.ofList head) keyword = true) ∧
        _ := by simpa only [Bool.and_eq_true] using h
    -- the letters found are a run of word characters that ends where the first word ends
    have hletters := Text.isAlpha_of_sameIgnoringCase hsame hkeyword
    rw [String.toList_ofList] at hletters
    have hsplit : head ++ (word ++ rest).drop head.length = word ++ rest :=
      Text.cut_append_drop _ _
    have hhead : (word ++ rest).takeWhile Text.isWordChar = head := by
      rw [← hsplit]
      refine Text.takeWhile_run (fun c hc => isWordChar_of_isAlpha (hletters c hc)) fun c hc => ?_
      simpa [hc] using hend
    rwa [← hhead, Text.takeWhile_run hword hrest] at hsame
  · intro h
    have hsize := Text.byteSize_eq_of_sameIgnoringCase h hkeyword
    rw [String.toList_ofList] at hsize
    have hcut : Text.cut (Text.byteSize keyword.toList) (word ++ rest) = word := by
      rw [← hsize, Text.cut_byteSize]
    unfold opensWith
    dsimp only
    rw [hcut, List.drop_left, h, hsize]
    cases hhead : rest.head? with
    | none => simp
    | some c => simp [hrest c hhead]

theorem ofWord_eq_other_iff (word : String) :
    ofWord word = .other ↔
      ∀ kind, ∀ keyword ∈ keywords kind, Text.sameIgnoringCase word keyword = false := by
  constructor
  · intro hother kind keyword hkeyword
    rw [Bool.eq_false_iff]
    intro hsame
    have hkind : kind ≠ .other := by
      rintro rfl
      cases hkeyword
    exact hkind (((ofWord_eq_iff hkind word).2 ⟨keyword, hkeyword, hsame⟩).symm.trans hother)
  · intro hnone
    by_contra hkind
    obtain ⟨keyword, hkeyword, hsame⟩ := (ofWord_eq_iff hkind word).1 rfl
    rw [hnone _ keyword hkeyword] at hsame
    cases hsame

theorem ofSql_append_of_passed {p : String} (hp : Passed p.toList) (s : String) :
    ofSql (p ++ s) = ofSql s := by
  rw [ofSql, String.toList_append, hp.body_append, ofSql]

theorem ofSql_of_bare {word rest : String} (hbare : Bare (word ++ rest).toList)
    (hword : ∀ c ∈ word.toList, Text.isWordChar c = true)
    (hrest : ∀ c, rest.toList.head? = some c → Text.isWordChar c = false) :
    ofSql (word ++ rest) = ofWord word := by
  rw [ofSql, hbare.body_eq, String.toList_append, Text.takeWhile_run hword hrest, String.ofList_toList]

/-- Every text is scanned to its end in finitely many rounds. What blanks, parentheses and line
comments stand before a text does not matter. A text that begins with nothing to pass over has the
kind of its first word, whether that is compared as a whole or the keywords are tried on bytes. -/
theorem kind_of_first_word :
    (∀ cs, ∃ rounds ≤ cs.length + 1, Scan cs rounds (body cs)) ∧
    (∀ p s : String, Passed p.toList → ofSql (p ++ s) = ofSql s) ∧
    ∀ word rest : String, Bare (word ++ rest).toList →
      (∀ c ∈ word.toList, Text.isWordChar c = true) →
      (∀ c, rest.toList.head? = some c → Text.isWordChar c = false) →
        (∀ kind, kind ≠ .other → (ofSql (word ++ rest) = kind ↔
          ∃ keyword ∈ kind.keywords, Text.sameIgnoringCase word keyword = true)) ∧
        (ofSql (word ++ rest) = .other ↔
          ∀ kind, ∀ keyword ∈ keywords kind, Text.sameIgnoringCase word keyword = false) ∧
        ∀ kind, ∀ keyword ∈ keywords kind,
          opensWith keyword (word ++ rest).toList = Text.sameIgnoringCase word keyword := by
  refine ⟨scan_body, fun p s hp => ofSql_append_of_passed hp s,
    fun word rest hbare hword hrest => ?_⟩
  rw [ofSql_of_bare hbare hword hrest]
  refine ⟨fun kind hkind => ofWord_eq_iff hkind word, ofWord_eq_other_iff word,
    fun kind keyword hkeyword => ?_⟩
  rw [String.toList_append, opensWith_eq (mem_keywords hkeyword).1 hword hrest,
    String.ofList_toList]

/-- A keyword in mixed case with a letter of two bytes behind it, after a parenthesis and comments of
both kinds, one of them with the opener of a block comment. -/
theorem kind_of_first_word_mixed :
    ofSql ("(--/*\n\t#é\n" ++ ("dEsc" ++ "é")) = .show ∧
      opensWith "DESCRIBE" ("dEsc" ++ "é").toList = false := by
  obtain ⟨-, hpassed, hbare⟩ := kind_of_first_word
  have hp : Passed "(--/*\n\t#é\n".toList := by
    have hpieces : "(--/*\n\t#é\n".toList = ['('] ++ ('-' :: '-' :: ['/', '*'] ++ ['\n'] ++
        (['\t'] ++ ('#' :: ['é'] ++ ['\n'] ++ []))) := by decide +kernel
    rw [hpieces]
    exact .cons .paren (.cons (.dashes (by decide)) (.cons (.blank (by decide))
      (.cons (.hash (by decide)) .nil)))
  have hword : ("dEsc" ++ "é").toList = ['d', 'E', 's', 'c', 'é'] := by decide +kernel
  have hstart : Bare ("dEsc" ++ "é").toList := by
    rw [hword]
    exact ⟨by rintro c ⟨⟩; decide, by decide, by decide, by decide, by decide⟩
  obtain ⟨hkind, -, hopens⟩ := hbare "dEsc" "é" hstart (List.all_eq_true.1 (by decide))
    (by rintro c ⟨⟩; decide)
  rw [hpassed _ _ hp, hkind .show (by decide), hopens .show "DESCRIBE" (by decide)]
  exact ⟨⟨"DESC", by decide, Text.sameIgnoringCase_iff.2 (by decide)⟩, by decide +kernel⟩

end OneTable.StatementKind
