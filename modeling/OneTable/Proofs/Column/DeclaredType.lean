import Mathlib.Data.List.TakeWhile
import OneTable.Column
import OneTable.Proofs.Text.Case

/-!
# The word of a declared type

The kind of a column hangs on the trimmed declared type in lower case up to its first parenthesis or
blank (`ColumnType.baseName_eq_word`), and a column counts as one of integers exactly if this is one
of six words (`Columns.typeOf?_eq_integer_iff`).
-/

namespace OneTable

namespace Text

theorem isBlank_toLower (c : Char) : isBlank c.toLower = isBlank c := by
  rw [isBlank, isBlank, toNat_toLower]
  split
  · rename_i h
    rw [Bool.eq_iff_iff]
    simp only [Bool.or_eq_true, Bool.and_eq_true, decide_eq_true_eq, beq_iff_eq]
    omega
  · rfl

end Text

namespace ColumnType

/-- Trimmed, in lower case and cut at the first `(` or blank. -/
def word (declared : String) : String :=
  String.ofList (((Text.trim declared.toList).map Char.toLower).takeWhile fun c =>
    c ≠ '(' && !Text.isBlank c)

theorem baseName_eq_word (declared : String) : baseName declared = word declared := by
  have hhead : ∀ c, ((Text.trim declared.toList).map Char.toLower).head? = some c →
      Text.isBlank c = false := by
    intro c hc
    rw [List.head?_map, Option.map_eq_some_iff] at hc
    obtain ⟨d, hd, rfl⟩ := hc
    rw [Text.isBlank_toLower, Text.head?_trim hd]
  rw [baseName, word]
  generalize (Text.trim declared.toList).map Char.toLower = cs at hhead ⊢
  -- the word begins the text, so there is no blank to take off before it
  have hstart : Text.trimStart (cs.takeWhile (· ≠ '(')) = cs.takeWhile (· ≠ '(') := by
    rcases cs with _ | ⟨c, cs⟩
    · rfl
    · by_cases hc : c = '('
      · simp [hc, Text.trimStart]
      · simp [hc, Text.trimStart, hhead c rfl]
  rw [hstart, List.takeWhile_takeWhile]
  simp [Bool.and_comm]

theorem ofDeclared_eq_integer_iff {declared : String} :
    ofDeclared declared = .integer ↔ word declared ∈ integerNames := by
  rw [ofDeclared, baseName_eq_word]
  split
  · rename_i h
    exact iff_of_true rfl (List.contains_iff_mem.1 h)
  · rename_i h
    refine iff_of_false ?_ (mt List.contains_iff_mem.2 h)
    split <;> exact nofun

end ColumnType

namespace Columns

theorem typeOf?_eq_integer_iff {cs : Columns} {name : String} :
    cs.typeOf? name = some .integer ↔
      ∃ c ∈ cs.toList, c.name = name ∧ ColumnType.word c.declared ∈ ColumnType.integerNames := by
  simp only [typeOf?, Option.map_eq_some_iff, get?_eq_some_iff, Column.type,
    ColumnType.ofDeclared_eq_integer_iff, and_assoc]

end Columns

end OneTable
