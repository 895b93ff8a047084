import Nomenclator.Distinct
import Nomenclator.Unicode.WhiteSpace

/-!
# Vocabularies

A table of tokens has a row for each thing that can be spelled in a configuration value: one canonical
spelling and possibly some others. Nothing keeps two rows from being about one thing or from sharing a
spelling; the first row that a token spells counts. Spellings are compared without regard to ASCII case
and to the white space around them. A token that spells nothing is no error here; a list of tokens
passes over it.

A vocabulary is a table with one row for each member of a small type.

Main statement: `parseTokensIn_eq_all_iff` says that only a lone `*` stands for the whole table.
-/

namespace Nomenclator

/-- What a row of a table of tokens is about, and how it is spelled. -/
structure TokenRow (α : Type) where
  id : α
  /-- The spelling that is written back. -/
  canonical : String
  /-- The other spellings that are read. -/
  aliases : List String
  /-- A sentence for the reader of a listing. -/
  description : String
  deriving DecidableEq, Repr

/-- The text spells the row, canonically or not. -/
def TokenRow.spells {α : Type} (spelling : Text) (row : TokenRow α) : Bool :=
  (row.canonical :: row.aliases).any fun s => Text.eqIgnoringCase s.toList spelling

/-- How the members of a type are spelled, and the order in which they are listed. -/
class Vocabulary (α : Type) where
  /-- All members, in the order in which they are listed and searched. -/
  entries : List α
  /-- The spelling that is written back. -/
  canonical : α → String
  /-- The other spellings that are read. -/
  aliases : α → List String
  /-- A sentence on the member for the reader of a listing. -/
  description : α → String

/-- The tokens of a comma-separated value: the wildcard, or what its entries resolve to. -/
inductive TokenList (α : Type)
  | all
  | some (members : List α)
  deriving DecidableEq, Repr

namespace Vocabulary

variable {α : Type}

/-- The spelling of a whole table. -/
def wildcard : String := "*"

/-! ## Tables -/

/-- What the first row is about that the token spells. -/
def lookupIn? (table : List (TokenRow α)) (token : Text) : Option α :=
  (table.find? (TokenRow.spells (Unicode.trim token))).map (·.id)

/-- What the entries of a comma-separated value resolve to in the table: each thing once, at its first
entry. -/
def resolveEntries [DecidableEq α] (table : List (TokenRow α)) (tokens : List Text) : List α :=
  distinct (tokens.filterMap (lookupIn? table))

/-- Read a comma-separated value against the table. -/
def parseTokensIn [DecidableEq α] (table : List (TokenRow α)) (value : Text) : TokenList α :=
  if Unicode.trim value = wildcard.toList then .all
  else .some (resolveEntries table (Text.splitOn ',' value))

theorem parseTokensIn_eq_all_iff [DecidableEq α] {table : List (TokenRow α)} {value : Text} :
    parseTokensIn table value = .all ↔ Unicode.trim value = wildcard.toList := by
  unfold parseTokensIn
  split <;> simp_all

/-! ## The table of a vocabulary -/

variable [Vocabulary α]

/-- The row of a member. -/
def row (a : α) : TokenRow α where
  id := a
  canonical := canonical a
  aliases := aliases a
  description := description a

/-- The rows of all members. -/
def table : List (TokenRow α) := entries.map row

/-- The member that the token spells. -/
def lookup? (token : Text) : Option α := lookupIn? table token

/-- Read a comma-separated value. -/
def parseTokens [DecidableEq α] (value : Text) : TokenList α := parseTokensIn table value

/-- Read a comma-separated value in which the wildcard stands for every member. -/
def parseMembers [DecidableEq α] (value : Text) : List α :=
  match parseTokens value with
  | .all => entries
  | .some members => members

end Vocabulary

end Nomenclator
