import Nomenclator.Text.Offset
import Nomenclator.Word.Breaking

/-!
# Scanning a name by byte offset

The words of a name can be found without taking the name apart. A cursor holds the name and the
offset up to which it has been read. To find a word it looks for a character that is no separator,
scans for the end of the word from there, slices the word out and moves to its end.

Every offset is computed from others by adding sizes of characters, and the name is sliced at what
comes out. A slice at an offset within a character is an error, so all of these functions can fail;
that they do not, on a cursor that starts at the front of its name, is to be proved.
-/

namespace Nomenclator

/-- A name and the offset up to which its words have been found. -/
structure Words where
  name : Text
  pos : Nat
  deriving DecidableEq, Repr

namespace Words

/-- The cursor at the front of a name. -/
def ofText (t : Text) : Words := ⟨t, 0⟩

/-- The offset just behind the run of one class that starts at an offset. -/
def runEnd (s : Words) (start : Nat) (cls : CharClass) : Except OffBoundary Nat := do
  let rest ← s.name.sliceFrom start
  match rest.charIndices.find? fun (_, c) => CharClass.of c != cls with
  | none => pure s.name.utf8Size
  | some (i, _) => pure (start + i)

/-- The offset just behind the word that starts at an offset, with the given first character. -/
def wordEnd (s : Words) (start : Nat) (first : Char) : Except OffBoundary Nat :=
  match CharClass.of first with
  | .digit => s.runEnd start .digit
  | .lower => s.runEnd start .lower
  | .upper => do
    let upperEnd ← s.runEnd start .upper
    let afterFirst := start + first.utf8Size
    if upperEnd = afterFirst then
      s.runEnd afterFirst .lower
    else
      let behind ← s.name.sliceFrom upperEnd
      if Word.startsLower behind then
        -- The last capital belongs to the next word.
        let front ← s.name.sliceTo upperEnd
        match front.charIndices.getLast? with
        | none => pure upperEnd
        | some (i, _) => pure i
      else pure upperEnd
  | .separator => pure (start + first.utf8Size)

/-- The next word, if there is one, and the cursor behind it. -/
def next (s : Words) : Except OffBoundary (Option Word × Words) := do
  let rest ← s.name.sliceFrom s.pos
  match rest.charIndices.find? fun (_, c) => CharClass.of c != .separator with
  | none => pure (none, s)
  | some (offset, first) =>
    let start := s.pos + offset
    let stop ← s.wordEnd start first
    let piece ← s.name.slice start stop
    pure (some (Word.ofText piece), { s with pos := stop })

end Words

end Nomenclator
