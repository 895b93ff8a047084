import Nomenclator.Json.Collection

/-!
# What readers take from the front of a text

A reader that succeeds takes a value from the front of a text and leaves the rest. `Reader.Reads`
says so for every place that the text may stand at, since places matter to faults only; the room for
arrays and objects is the same before and after.

One law per step says what it takes: blanks are passed before a token and nowhere else, a bracket is
read inside out with one less to open, and before each element or member stands what sets it apart
from the one before. The laws are put together by `Reads.bind` along the reader.
-/

namespace Nomenclator.Json.Reader

variable {α β : Type}

/-- From this text the reader takes this value and leaves the rest. -/
def Reads (r : Reader α) (room : Nat) (t : Text) (a : α) (rest : Text) : Prop :=
  ∀ position, ∃ position', r ⟨t, position, room⟩ = .done a ⟨rest, position', room⟩

section Steps

variable {r : Reader α} {room : Nat} {t rest : Text} {a : α}

theorem reads_pure (a : α) : Reads (pure a) room t a t := fun position => ⟨position, rfl⟩

theorem Reads.bind {k : α → Reader β} {b : β} {between : Text} (h : Reads r room t a between)
    (hk : Reads (k a) room between b rest) : Reads (r >>= k) room t b rest := by
  intro position
  obtain ⟨between', hr⟩ := h position
  obtain ⟨position', hb⟩ := hk between'
  refine ⟨position', ?_⟩
  simp only [Bind.bind, hr]
  exact hb

theorem Reads.located (h : Reads r room t a rest) : Reads (located r) room t a rest := by
  intro position
  obtain ⟨position', hr⟩ := h position
  refine ⟨position', ?_⟩
  rw [Reader.located, hr]

theorem reads_ofExcept {result : Except Mismatch α} (h : result = .ok a) :
    Reads (ofExcept result) room t a t := by
  rw [h]
  exact reads_pure a

theorem reads_advance (c : Char) (t : Text) : Reads advance room (c :: t) () t :=
  fun position => ⟨position.past c, rfl⟩

theorem reads_rounds (t : Text) : Reads rounds room t t.length t :=
  fun position => ⟨position, rfl⟩

/-- A reader that takes the whole text reads it as a document. -/
theorem document_eq_ok (h : Reads r 127 t a []) : document r t = .ok a := by
  obtain ⟨position, hr⟩ := h {}
  unfold document
  simp only [bind, hr]
  rfl

end Steps

/-! ## Blanks -/

/-- Only blanks. -/
def Blank (gap : Text) : Prop := ∀ c ∈ gap, isBlank c = true

theorem blank_nil : Blank [] := fun _ h => absurd h List.not_mem_nil

section Tokens

variable {room : Nat} {gap t : Text} {c : Char}

theorem exists_passBlanks (hgap : Blank gap) (hc : isBlank c = false) (position : Position) :
    ∃ position', passBlanks position (gap ++ c :: t) = (c :: t, position') := by
  induction gap generalizing position with
  | nil => exact ⟨position, by simp [passBlanks, hc]⟩
  | cons d gap ih =>
    have hd : isBlank d = true := hgap d List.mem_cons_self
    obtain ⟨position', h⟩ := ih (fun e he => hgap e (List.mem_cons_of_mem d he)) (position.past d)
    exact ⟨position', by rw [List.cons_append, passBlanks, if_pos hd, h]⟩

theorem reads_peekToken (hgap : Blank gap) (hc : isBlank c = false) :
    Reads peekToken room (gap ++ c :: t) (some c) (c :: t) := by
  intro position
  obtain ⟨position', h⟩ := exists_passBlanks (t := t) hgap hc position
  exact ⟨position', by simp [peekToken, h]⟩

/-- The next token is seen and not taken, but the blanks before it are. -/
theorem reads_expectToken {atEnd : Malformation} (hgap : Blank gap) (hc : isBlank c = false) :
    Reads (expectToken atEnd) room (gap ++ c :: t) c (c :: t) :=
  (reads_peekToken hgap hc).bind (reads_pure c)

theorem reads_colon (t : Text) : Reads colon room (':' :: t) () t :=
  (reads_expectToken blank_nil rfl).bind (reads_advance ':' t)

/-! ## Brackets -/

theorem reads_endArray (t : Text) : Reads endArray room (']' :: t) () t :=
  (reads_expectToken blank_nil rfl).bind (reads_advance ']' t)

theorem reads_endObject (t : Text) : Reads endObject room ('}' :: t) () t :=
  (reads_expectToken blank_nil rfl).bind (reads_advance '}' t)

theorem Reads.inside {close : Reader Unit} {body : Reader α} {a : α} {inner rest : Text}
    (hbody : Reads body room t a inner) (hclose : Reads close room inner () rest) :
    Reads (inside close body) (room + 1) (c :: t) a rest := by
  intro position
  obtain ⟨position₁, h₁⟩ := (reads_advance c t).bind (k := fun _ => body) hbody position
  obtain ⟨position₂, h₂⟩ := hclose position₁
  refine ⟨position₂, ?_⟩
  simp only [Reader.inside, h₁, h₂]

/-- What sets an element or a member apart from the one before. -/
def separator (isFirst : Bool) : Text := if isFirst then [] else [',']

/-! ## Elements -/

theorem reads_hasElement_end (isFirst : Bool) (hgap : Blank gap) :
    Reads (hasElement isFirst) room (gap ++ ']' :: t) false (']' :: t) :=
  (reads_expectToken hgap rfl).bind (reads_pure false)

theorem reads_hasElement (isFirst : Bool) (hgap : Blank gap) (hc : isBlank c = false)
    (hne : c ≠ ']') :
    Reads (hasElement isFirst) room (separator isFirst ++ (gap ++ c :: t)) true (c :: t) := by
  cases isFirst with
  | true =>
    refine (reads_expectToken hgap hc).bind ?_
    rw [if_neg hne]
    exact reads_pure true
  | false =>
    refine (reads_expectToken blank_nil rfl).bind ((reads_advance ',' _).bind ?_)
    refine (reads_expectToken hgap hc).bind ?_
    rw [if_neg hne]
    exact reads_pure true

section Loop

variable {element : Reader α} {isFirst : Bool} {n : Nat} {rest : Text}

theorem reads_elementsFrom_nil (h : Reads (hasElement isFirst) room t false rest) :
    Reads (elementsFrom element isFirst (n + 1)) room t [] rest :=
  h.bind (reads_pure [])

theorem reads_elementsFrom_cons {a : α} {as : List α} {front between : Text}
    (hhas : Reads (hasElement isFirst) room t true front)
    (ha : Reads element room front a between)
    (has : Reads (elementsFrom element false n) room between as rest) :
    Reads (elementsFrom element isFirst (n + 1)) room t (a :: as) rest :=
  hhas.bind (ha.bind (has.bind (reads_pure (a :: as))))

end Loop

/-! ## Members -/

theorem reads_hasMember_end (isFirst : Bool) (hgap : Blank gap) :
    Reads (hasMember isFirst) room (gap ++ '}' :: t) false ('}' :: t) :=
  (reads_expectToken hgap rfl).bind (reads_pure false)

theorem reads_hasMember (isFirst : Bool) (hgap : Blank gap) :
    Reads (hasMember isFirst) room (separator isFirst ++ (gap ++ '"' :: t)) true ('"' :: t) := by
  cases isFirst with
  | true => exact (reads_expectToken hgap rfl).bind (reads_pure true)
  | false =>
    refine (reads_expectToken blank_nil rfl).bind ((reads_advance ',' _).bind ?_)
    exact (reads_expectToken hgap rfl).bind (reads_pure true)

end Tokens

end Nomenclator.Json.Reader
