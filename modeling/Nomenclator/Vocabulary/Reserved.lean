import Nomenclator.Text.Basic

/-!
# Reserved words

A reserved word is no identifier, but the verbatim mark `@` in front of it makes it one. Contextual
keywords are identifiers as they are and are not listed.

Main statements: `unescape_escape` undoes the mark that `escape` adds, and `isReserved_escape` says
that no escaped name is reserved.
-/

namespace Nomenclator.Reserved

/-- The mark that makes an identifier of a reserved word. -/
def verbatimMark : Char := '@'

/-- The reserved words, in alphabetical order. -/
def words : List String :=
  ["abstract", "as", "base", "bool", "break", "byte", "case", "catch", "char", "checked", "class",
    "const", "continue", "decimal", "default", "delegate", "do", "double", "else", "enum",
    "event", "explicit", "extern", "false", "finally", "fixed", "float", "for", "foreach", "goto",
    "if", "implicit", "in", "int", "interface", "internal", "is", "lock", "long", "namespace",
    "new", "null", "object", "operator", "out", "override", "params", "private", "protected",
    "public", "readonly", "ref", "return", "sbyte", "sealed", "short", "sizeof", "stackalloc",
    "static", "string", "struct", "switch", "this", "throw", "true", "try", "typeof", "uint",
    "ulong", "unchecked", "unsafe", "ushort", "using", "virtual", "void", "volatile", "while"]

/-- The name is a reserved word; case matters. -/
def isReserved (name : Text) : Bool := words.any fun w => w.toList == name

/-- The name as an identifier: marked if it is reserved. -/
def escape (name : Text) : Text := if isReserved name then verbatimMark :: name else name

/-- The name without one leading mark. -/
def unescape : Text → Text
  | [] => []
  | c :: name => if c = verbatimMark then name else c :: name

theorem not_isReserved_marked (name : Text) : isReserved (verbatimMark :: name) = false := by
  have h : ∀ w ∈ words, w.toList.head? ≠ some verbatimMark := by decide
  rw [isReserved, List.any_eq_false]
  intro w hw heq
  exact h w hw (by rw [beq_iff_eq.1 heq]; rfl)

/-- An escaped name is never reserved. -/
theorem isReserved_escape (name : Text) : isReserved (escape name) = false := by
  unfold escape
  split
  · exact not_isReserved_marked name
  · rename_i h
    simpa using h

/-- Removing the mark gives a name back, unless the name started with a mark of its own. -/
theorem unescape_escape {name : Text} (h : name.head? ≠ some verbatimMark) :
    unescape (escape name) = name := by
  unfold escape
  split
  · simp [unescape]
  · cases name with
    | nil => rfl
    | cons c name => simpa [unescape] using h

end Nomenclator.Reserved
