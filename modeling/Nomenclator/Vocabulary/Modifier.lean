import Nomenclator.Vocabulary.Basic

/-!
# Modifiers

The words that may stand before a declaration. A naming rule can ask for some of them; the others
are only known so that a declaration can be described.

Asking for `*` asks for nothing: no declaration carries every modifier, for some exclude others.
-/

namespace Nomenclator

/-- The declaration modifiers. -/
inductive Modifier
  | abstract
  | async
  | const
  | readOnly
  | static
  | virtual
  | override
  | sealed
  deriving DecidableEq, Repr

namespace Modifier

/-- The token of a modifier. -/
def canonical : Modifier → String
  | .abstract => "abstract"
  | .async => "async"
  | .const => "const"
  | .readOnly => "readonly"
  | .static => "static"
  | .virtual => "virtual"
  | .override => "override"
  | .sealed => "sealed"

/-- The other tokens of a modifier. -/
def aliases : Modifier → List String
  | .abstract => ["must_inherit"]
  | .static => ["shared"]
  | .virtual => ["overridable"]
  | .override => ["overrides"]
  | .sealed => ["not_overridable"]
  | _ => []

/-- A naming rule may ask for the modifier. -/
def isRequirable : Modifier → Bool
  | .abstract | .async | .const | .readOnly | .static => true
  | .virtual | .override | .sealed => false

/-- The place of a modifier in the listing. -/
def index : Modifier → Nat
  | .abstract => 0
  | .async => 1
  | .const => 2
  | .readOnly => 3
  | .static => 4
  | .virtual => 5
  | .override => 6
  | .sealed => 7

/-- The bit of a modifier in a row of sixteen. -/
def bit (m : Modifier) : BitVec 16 := 1#16 <<< m.index

end Modifier

instance : Vocabulary Modifier where
  entries := [.abstract, .async, .const, .readOnly, .static, .virtual, .override, .sealed]
  canonical := Modifier.canonical
  aliases := Modifier.aliases
  description _ := ""

namespace Modifier

/-- The rows of the modifiers that a naming rule may ask for, in the order of the listing. -/
def requirable : List (TokenRow Modifier) :=
  [.abstract, .async, .const, .readOnly, .static].map Vocabulary.row

/-- The modifiers that a rule asks for by this value: the requirable ones among its entries. -/
def parseRequired (value : Text) : List Modifier :=
  match Vocabulary.parseTokensIn requirable value with
  | .all => []
  | .some members => members

/-- Every modifier is listed. -/
theorem mem_entries (m : Modifier) : m ∈ (Vocabulary.entries : List Modifier) := by
  cases m <;> decide

/-- The rows of the requirable modifiers are listed apart, in their order. -/
theorem requirable_eq_filter :
    requirable = (Vocabulary.table : List (TokenRow Modifier)).filter fun row => row.id.isRequirable := by
  decide

theorem index_injective {a b : Modifier} (h : a.index = b.index) : a = b := by
  cases a <;> cases b <;> simp_all [index]

theorem index_lt (m : Modifier) : m.index < 16 := by
  cases m <;> decide

/-- A modifier's bit is at its index, and no other bit is set. -/
@[simp] theorem getLsbD_bit (m : Modifier) (i : Nat) :
    m.bit.getLsbD i = decide (m.index = i) := by
  simp [bit, ← BitVec.twoPow_eq, BitVec.getLsbD_twoPow, index_lt]

end Modifier

end Nomenclator
