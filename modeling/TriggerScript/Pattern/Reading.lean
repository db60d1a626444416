import TriggerScript.Pattern.Slot
import TriggerScript.Pattern.Writing
import TriggerScript.Regex.Dialect

/-!
# Reading patterns

A pattern is read from left to right into pieces: single characters and whole groups,
captures and slots. Neighbouring characters then make up texts. Which regular expressions
a capture may hold is left to a dialect. What is left to read is passed along as a list
of characters together with its offset in bytes, and every reading function returns how
much of it remains, with the proof that it did not become longer.
-/

namespace TriggerScript
namespace Pattern

/-- The two kinds of groups. -/
inductive GroupKind where
  | optional
  | choice
deriving DecidableEq

namespace GroupKind

def opener : GroupKind → Char
  | .optional => '['
  | .choice => '('

def closer : GroupKind → Char
  | .optional => ']'
  | .choice => ')'

end GroupKind

/-- A group that was opened at an offset. -/
structure OpenGroup where
  kind : GroupKind
  offset : Nat
deriving DecidableEq

/-- The fault of a group that is never closed. -/
def OpenGroup.unclosed
    (g : OpenGroup) : Fault :=
  .unclosed g.kind.opener g.kind.closer g.offset

/-- Whether a character ends a sequence of pieces: the bar and
the closer of the group that the sequence is part of. Nothing but
the end of the pattern ends a sequence outside of all groups. -/
def stops
    (g : Option OpenGroup) (c : Char) : Bool :=
  match g with
  | none => false
  | some g => c == '|' || c == g.kind.closer

/-- A part of a sequence. -/
inductive Piece where
  /-- A character of a text, escaped or not. -/
  | char (c : Char)
  /-- A group, a capture or a slot. -/
  | node (t : Tree)
deriving DecidableEq

/-- The trees with a text in front of them, unless it is empty. -/
def withText
    (cs : List Char) (ts : List Tree) : List Tree :=
  if cs.isEmpty then ts else .text (String.ofList cs) :: ts

/-- The characters that pieces start with, and the
trees that the other pieces make up. -/
def gather : List Piece → List Char × List Tree
  | [] => ([], [])
  | .char c :: ps =>
      let r := gather ps
      (c :: r.1, r.2)
  | .node t :: ps =>
      let r := gather ps
      ([], t :: withText r.1 r.2)

/-- The trees that pieces make up, where neighbouring characters are one text. -/
def joinPieces
    (ps : List Piece) : List Tree :=
  let r := gather ps
  withText r.1 r.2

/-- The tree of a sequence of trees: the only one, or a compound of several. -/
def Tree.ofList : List Tree → Tree
  | [] => .text ""
  | [t] => t
  | ts => .compound ts

def Tree.ofPieces
    (ps : List Piece) : Tree :=
  Tree.ofList (joinPieces ps)

/-- The content of an optional group: its only
alternative if it is not marked, or the choice. -/
def optionalContent : List (Marked Tree) → Tree
  | [⟨mark, t⟩] => if mark = 0 then t else .choice [⟨mark, t⟩]
  | alternatives => .choice alternatives

/-- A result of reading a text, and what remains of the text. -/
structure Read (α : Type) (text : List Char) where
  value : α
  offset : Nat
  rest : List Char
  rest_le : rest.length ≤ text.length

/-- The result of reading a part of a text as a result of reading the whole. -/
def Read.within {α : Type} {part : List Char}
    (r : Read α part) (text : List Char) (h : part.length ≤ text.length) : Read α text :=
  ⟨r.value, r.offset, r.rest, Nat.le_trans r.rest_le h⟩

def Read.map {α β : Type} {text : List Char}
    (f : α → β) (r : Read α text) : Read β text :=
  ⟨f r.value, r.offset, r.rest, r.rest_le⟩

/-- The number that a run of digits stands for. -/
def digitsValue
    (digits : List Char) : Nat :=
  digits.foldl (fun n c => 10 * n + (c.toNat - '0'.toNat)) 0

/-- The mark that a run of digits stands for, if there
are digits and their value fits into 32 bits. -/
def markOf?
    (digits : List Char) : Option UInt32 :=
  if digits ≠ [] ∧ digitsValue digits < UInt32.size then
    some (UInt32.ofNat (digitsValue digits))
  else
    none

/-- The mark in front of an alternative, its digits, and what comes after the separator
behind them; any other text is no mark. -/
def splitMark?
    (cs : List Char) : Option (UInt32 × List Char × List Char) :=
  match cs.dropWhile Char.isDigit with
  | [] => none
  | c :: rest =>
      if c = markSeparator then
        (markOf? (cs.takeWhile Char.isDigit)).map fun mark =>
          (mark, cs.takeWhile Char.isDigit, rest)
      else
        none

theorem splitMark?_length
    {cs digits rest : List Char} {mark : UInt32}
    (h : splitMark? cs = some (mark, digits, rest)) :
    rest.length ≤ cs.length := by
  unfold splitMark? at h
  have hle := (List.dropWhile_sublist (l := cs) Char.isDigit).length_le
  split at h
  · simp at h
  · rename_i c tail htail
    split at h
    · simp only [Option.map_eq_some_iff, Prod.mk.injEq] at h
      obtain ⟨_, _, _, _, rfl⟩ := h
      simp only [htail, List.length_cons] at hle
      omega
    · simp at h

/-- Read the mark in front of an alternative; it is zero where there is none. -/
def readMark
    (offset : Nat) (cs : List Char) : Read UInt32 cs :=
  match h : splitMark? cs with
  | some (mark, digits, rest) =>
      ⟨mark, offset + Text.byteLength digits + markSeparator.utf8Size, rest,
        splitMark?_length h⟩
  | none => ⟨0, offset, cs, Nat.le_refl _⟩

/-- The characters of a capture up to its closing delimiter, and what comes after. A
delimiter right behind a backslash belongs to the capture, without the backslash. -/
def splitCapture? : List Char → Option (List Char × List Char)
  | [] => none
  | '>' :: cs => some ([], cs)
  | '\\' :: '>' :: cs => (splitCapture? cs).map fun r => ('>' :: r.1, r.2)
  | c :: cs => (splitCapture? cs).map fun r => (c :: r.1, r.2)

/-- The number of bytes of a capture's body as it was written. -/
def captureLength
    (body : List Char) : Nat :=
  Text.byteLength (escapeCapture body)

theorem splitCapture?_length
    {cs body rest : List Char}
    (h : splitCapture? cs = some (body, rest)) :
    rest.length ≤ cs.length := by
  fun_induction splitCapture? cs generalizing body rest with
  | case1 =>
      simp at h
  | case2 cs =>
      simp only [Option.some.injEq, Prod.mk.injEq] at h
      obtain ⟨_, rfl⟩ := h
      simp
  | case3 cs ih =>
      simp only [Option.map_eq_some_iff, Prod.mk.injEq] at h
      obtain ⟨r, hr, _, rfl⟩ := h
      have := ih hr
      simp only [List.length_cons]
      omega
  | case4 c cs _ _ ih =>
      simp only [Option.map_eq_some_iff, Prod.mk.injEq] at h
      obtain ⟨r, hr, _, rfl⟩ := h
      have := ih hr
      simp only [List.length_cons]
      omega

/-- Read a capture after its opening delimiter, which stands at `start`. -/
def readCapture
    [Regex.Dialect]
    (start : Nat) (cs : List Char) : Except Fault (Read Tree cs) :=
  match h : splitCapture? cs with
  | none => .error (.unclosed '<' '>' start)
  | some (body, rest) =>
      let stop := start + 1 + captureLength body + 1
      match Regex.Dialect.complaint? body with
      | some reason => .error (.badCapture (String.ofList body) reason start stop)
      | none => .ok ⟨.capture (String.ofList body), stop, rest, splitCapture?_length h⟩

/-- The characters before and after the first occurrence of a character. -/
def splitAt?
    (mark : Char) : List Char → Option (List Char × List Char)
  | [] => none
  | c :: cs =>
      if c = mark then some ([], cs) else (splitAt? mark cs).map fun r => (c :: r.1, r.2)

theorem eq_append_of_splitAt?
    {mark : Char} {cs before after : List Char}
    (h : splitAt? mark cs = some (before, after)) :
    cs = before ++ mark :: after := by
  induction cs generalizing before with
  | nil =>
      simp [splitAt?] at h
  | cons c cs ih =>
      unfold splitAt? at h
      split at h
      · rename_i hc
        simp only [Option.some.injEq, Prod.mk.injEq] at h
        obtain ⟨rfl, rfl⟩ := h
        simp [hc]
      · simp only [Option.map_eq_some_iff, Prod.mk.injEq] at h
        obtain ⟨r, hr, rfl, rfl⟩ := h
        simp [ih hr]

theorem splitAt?_length
    {mark : Char} {cs before after : List Char}
    (h : splitAt? mark cs = some (before, after)) :
    after.length ≤ cs.length := by
  rw [eq_append_of_splitAt? h]
  simp only [List.length_append, List.length_cons]
  omega

/-- Read a slot after its opening delimiter, which stands at `start`. -/
def readSlot
    (start : Nat) (cs : List Char) : Except Fault (Read Tree cs) :=
  match h : splitAt? '%' cs with
  | none => .error (.unclosed '%' '%' start)
  | some (body, rest) =>
      let stop := start + 1 + Text.byteLength body + 1
      match readSlotBody body with
      | .error fault => .error (fault.toFault start stop)
      | .ok slot => .ok ⟨.slot slot, stop, rest, splitAt?_length h⟩

mutual

/-- Read pieces up to the end of the group that
they are part of, which itself is not read. -/
def readPieces
    [Regex.Dialect]
    (g : Option OpenGroup) (offset : Nat) (cs : List Char) :
    Except Fault (Read (List Piece) cs) :=
  match cs with
  | [] =>
      match g with
      | some g => .error g.unclosed
      | none => .ok ⟨[], offset, [], Nat.le_refl _⟩
  | c :: tail =>
      if stops g c then
        .ok ⟨[], offset, c :: tail, Nat.le_refl _⟩
      else
        match readPiece offset c tail with
        | .error fault => .error fault
        | .ok first =>
            match readPieces g first.offset first.rest with
            | .error fault => .error fault
            | .ok others =>
                .ok ((others.map (first.value :: ·)).within (c :: tail)
                  (Nat.le_succ_of_le first.rest_le))
termination_by (cs.length, 1)
decreasing_by
  · exact Prod.Lex.right _ (by omega)
  · exact Prod.Lex.left _ _ (Nat.lt_succ_of_le first.rest_le)

/-- Read the piece that starts with the character `c` at `offset`. -/
def readPiece
    [Regex.Dialect]
    (offset : Nat) (c : Char) (tail : List Char) : Except Fault (Read Piece tail) :=
  match c with
  | '\\' =>
      match tail with
      | [] => .error (.danglingEscape offset)
      | e :: rest => .ok ⟨.char e, offset + 1 + e.utf8Size, rest, Nat.le_succ _⟩
  | '[' =>
      match readAlternatives ⟨.optional, offset⟩ (offset + 1) tail with
      | .error fault => .error fault
      | .ok r =>
          .ok (r.map fun alternatives =>
            .node (.optional (optionalContent alternatives)))
  | '(' =>
      match readAlternatives ⟨.choice, offset⟩ (offset + 1) tail with
      | .error fault => .error fault
      | .ok r => .ok (r.map fun alternatives => .node (.choice alternatives))
  | '<' => (readCapture offset tail).map (Read.map .node)
  | '%' => (readSlot offset tail).map (Read.map .node)
  | ']' => .error (.unmatched ']' offset)
  | ')' => .error (.unmatched ')' offset)
  | '|' => .error (.unmatched '|' offset)
  | c => .ok ⟨.char c, offset + c.utf8Size, tail, Nat.le_refl _⟩
termination_by (tail.length + 1, 0)
decreasing_by
  all_goals exact Prod.Lex.left _ _ (by omega)

/-- Read the alternatives of a group and the character that closes it. -/
def readAlternatives
    [Regex.Dialect]
    (g : OpenGroup) (offset : Nat) (cs : List Char) :
    Except Fault (Read (List (Marked Tree)) cs) :=
  let mark := readMark offset cs
  match readPieces (some g) mark.offset mark.rest with
  | .error fault => .error fault
  | .ok pieces =>
      let alternative : Marked Tree := ⟨mark.value, Tree.ofPieces pieces.value⟩
      match h : pieces.rest with
      | [] => .error g.unclosed
      | c :: rest =>
          have hlt : rest.length < cs.length := by
            have := pieces.rest_le
            have := mark.rest_le
            simp [h] at *
            omega
          if c = '|' then
            match readAlternatives g (pieces.offset + 1) rest with
            | .error fault => .error fault
            | .ok others =>
                .ok ((others.map (alternative :: ·)).within cs (Nat.le_of_lt hlt))
          else if c = g.kind.closer then
            .ok ⟨[alternative], pieces.offset + 1, rest, Nat.le_of_lt hlt⟩
          else
            .error g.unclosed
termination_by (cs.length, 2)
decreasing_by
  · exact Prod.Lex.right' _ mark.rest_le (by omega)
  · exact Prod.Lex.left _ _ hlt

end

/-- The tree of a pattern, or the first fault in it. -/
def parse
    [Regex.Dialect]
    (cs : List Char) : Except Fault Tree :=
  (readPieces none 0 cs).map fun r => Tree.ofPieces r.value

/-- The tree of the text of a pattern, or a diagnostic about it. -/
def compile
    [Regex.Dialect]
    (source : String) : Except Report.Diagnostic Tree :=
  (parse source.toList).mapError fun fault => fault.diagnostic source

end Pattern
end TriggerScript
