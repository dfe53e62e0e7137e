import OneTable.Error

/-!
# Identifiers

Names of tables, columns and databases stand between back-quotes; a back-quote inside a name is
written twice, and nothing else is changed.
-/

namespace OneTable

namespace Ident

/-- The character that stands around a name. -/
abbrev quote : Char := '\x60'

def encodeChar (c : Char) : List Char := if c = quote then [quote, quote] else [c]

def encode (name : List Char) : List Char := quote :: name.flatMap encodeChar ++ [quote]

/-- The name between back-quotes. -/
def quoted (name : String) : String := String.ofList (encode name.toList)

theorem toList_quoted (name : String) : (quoted name).toList = encode name.toList := by
  simp [quoted]

theorem mem_quoted_iff {c : Char} (hc : c ≠ quote) (name : String) :
    c ∈ (quoted name).toList ↔ c ∈ name.toList := by
  have hencode : ∀ d, c ∈ encodeChar d ↔ c = d := by
    intro d
    rw [encodeChar]
    split
    · rename_i hd
      simp [hd, hc]
    · simp
  simp [toList_quoted, encode, hc, hencode]

/-- Why a name can be no identifier. -/
inductive Fault
  | empty
  | nul
  | endsWithSpace (name : String)
deriving DecidableEq, Repr

def Fault.message : Fault → String
  | .empty => "identifier cannot be empty"
  | .nul => "identifier cannot contain NUL character"
  | .endsWithSpace name => "identifier cannot end with a space: " ++ Text.quoted name

def Fault.toError (f : Fault) : Error := .inputRejected f.message

/-- What is wrong with a name, if anything is. -/
def fault? (name : String) : Option Fault :=
  if name.toList.isEmpty then some .empty
  else if name.toList.contains '\x00' then some .nul
  else if name.toList.getLast? == some ' ' then some (.endsWithSpace name)
  else none

/-- Lets a name pass or says why it cannot be an identifier. -/
def check (name : String) : Except Error String :=
  match fault? name with
  | none => .ok name
  | some f => .error f.toError

end Ident

end OneTable
