/-!
# Texts as UTF-8 bytes

A text is cut to a budget of bytes without splitting a character: `cut` keeps the characters that
fit, in order, and stops at the first that does not (`byteSize_cut_le`, `cut_append_drop`).

Reading bytes as UTF-8 goes through `units`: each unit is one well-formed character, or one
longest run of bytes that could have begun a character and did not go on as one.
-/

namespace OneTable.Text

def byteSize (cs : List Char) : Nat := cs.foldr (fun c n => c.utf8Size + n) 0

/-- The longest run of whole characters from the start that fits into `budget` bytes. -/
def cut (budget : Nat) : List Char → List Char
  | [] => []
  | c :: cs => if c.utf8Size ≤ budget then c :: cut (budget - c.utf8Size) cs else []

/-- The text itself when it fits into `budget` bytes; else the part of it that fits, with three
dots behind it. -/
def abbreviated (budget : Nat) (s : String) : String :=
  if byteSize s.toList ≤ budget then s else String.ofList (cut budget s.toList) ++ "..."

theorem byteSize_cut_le (budget : Nat) (cs : List Char) : byteSize (cut budget cs) ≤ budget := by
  induction cs generalizing budget with
  | nil => simp [cut, byteSize]
  | cons c cs ih =>
    rw [cut]
    split
    · rename_i h
      have := ih (budget - c.utf8Size)
      simp only [byteSize, List.foldr_cons] at this ⊢
      omega
    · simp [byteSize]

theorem cut_append_drop (budget : Nat) (cs : List Char) :
    cut budget cs ++ cs.drop (cut budget cs).length = cs := by
  induction cs generalizing budget with
  | nil => rfl
  | cons c cs ih =>
    rw [cut]
    split
    · simp [ih]
    · rfl

theorem cut_zero (cs : List Char) : cut 0 cs = [] := by
  cases cs with
  | nil => rfl
  | cons c cs => rw [cut, if_neg (Nat.not_le_of_lt (Char.utf8Size_pos c))]

/-- A cut behind whole characters leaves them. -/
theorem cut_byteSize (cs rest : List Char) : cut (byteSize cs) (cs ++ rest) = cs := by
  induction cs with
  | nil => exact cut_zero rest
  | cons c cs ih =>
    have hsize : byteSize (c :: cs) = c.utf8Size + byteSize cs := rfl
    rw [List.cons_append, cut, hsize, if_pos (Nat.le_add_right ..), Nat.add_sub_cancel_left, ih]

/-- What a first byte promises: how many bytes follow it, and the range of the next of them. -/
def follow? (b : Nat) : Option (Nat × Nat × Nat) :=
  if b < 0xc2 then none
  else if b < 0xe0 then some (1, 0x80, 0xbf)
  else if b == 0xe0 then some (2, 0xa0, 0xbf)
  else if b == 0xed then some (2, 0x80, 0x9f)
  else if b < 0xf0 then some (2, 0x80, 0xbf)
  else if b == 0xf0 then some (3, 0x90, 0xbf)
  else if b < 0xf4 then some (3, 0x80, 0xbf)
  else if b == 0xf4 then some (3, 0x80, 0x8f)
  else none

/-- Adds `count` continuation bytes to the code point `n`. The first has to lie between `low` and
`high`, the others anywhere in the range of continuation bytes. With a character missing, the bytes
that did continue it are used up. -/
def continued (n : Nat) : (count low high : Nat) → List UInt8 → Option Char × List UInt8
  | 0, _, _, bs => (some (Char.ofNat n), bs)
  | _ + 1, _, _, [] => (none, [])
  | count + 1, low, high, b :: bs =>
    if low ≤ b.toNat && b.toNat ≤ high then
      continued (n * 64 + (b.toNat - 0x80)) count 0x80 0xbf bs
    else (none, b :: bs)

theorem length_continued_le (n count low high : Nat) (bs : List UInt8) :
    (continued n count low high bs).2.length ≤ bs.length := by
  induction count generalizing n low high bs with
  | zero => simp [continued]
  | succ count ih =>
    cases bs with
    | nil => simp [continued]
    | cons b bs =>
      rw [continued]
      split
      · exact Nat.le_succ_of_le (ih ..)
      · exact Nat.le_refl _

/-- The units of a byte sequence; `none` stands for bytes that are no character. -/
def units : List UInt8 → List (Option Char)
  | [] => []
  | b :: bs =>
    if b.toNat < 0x80 then some (Char.ofNat b.toNat) :: units bs
    else match follow? b.toNat with
      | none => none :: units bs
      | some (count, low, high) =>
        let lead := if count == 1 then b.toNat - 0xc0 else if count == 2 then b.toNat - 0xe0
          else b.toNat - 0xf0
        let step := continued lead count low high bs
        step.1 :: units step.2
  termination_by bs => bs.length
  decreasing_by
    all_goals simp only [List.length_cons]
    all_goals first
      | exact Nat.lt_succ_self _
      | exact Nat.lt_succ_of_le (length_continued_le ..)

/-- Reads bytes as UTF-8 and puts U+FFFD for each unit that is no character. -/
def ofBytesLossy (bs : List UInt8) : String :=
  String.ofList ((units bs).map fun u => u.getD '\uFFFD')

/-- Reads bytes as UTF-8, all of them or not at all. -/
def ofBytes? (bs : List UInt8) : Option String :=
  ((units bs).mapM id).map String.ofList

end OneTable.Text
