import Mathlib.Logic.Function.Iterate
import TriggerScript.Proofs.Pattern.Reading
import TriggerScript.Proofs.Text.Offsets

/-!
# Reading a pattern turn by turn

A pattern is read in turns: between two of them reading is at an offset into the whole
text, with the groups that are open there and what was read of them. Every look at the
text cuts it at an offset, which fails if the offset is not between two characters of the
text. No turn fails, and each turn goes on behind where it started, unless an alternative
has no mark or a sequence ends there.
-/

namespace TriggerScript
namespace Pattern

open Text (byteLength dropBytes? dropBytes?_add dropBytes?_utf8Size
  dropBytes?_eq_some_iff)

/-- The tree of a group with given alternatives. -/
def GroupKind.tree
    (alternatives : List (Marked Tree)) : GroupKind → Tree
  | .optional => .optional (optionalContent alternatives)
  | .choice => .choice alternatives

/-- A group that is being read. -/
structure Level where
  group : OpenGroup
  /-- What was read of the sequence around the group, which goes on behind it. -/
  around : List Piece
  /-- The alternatives in front of the current one. -/
  earlier : List (Marked Tree)
  /-- The mark of the current alternative. -/
  mark : UInt32

namespace Level

/-- A group at its opener. -/
def opened
    (kind : GroupKind) (offset : Nat) (around : List Piece) : Level :=
  ⟨⟨kind, offset⟩, around, [], 0⟩

def withMark
    (level : Level) (mark : UInt32) : Level :=
  { level with mark := mark }

/-- The alternatives up to the current one, which consists of given pieces. -/
def alternatives
    (level : Level) (pieces : List Piece) : List (Marked Tree) :=
  level.earlier ++ [⟨level.mark, Tree.ofPieces pieces⟩]

/-- The group behind a bar. -/
def nextAlternative
    (level : Level) (pieces : List Piece) : Level :=
  { level with earlier := level.alternatives pieces }

@[simp] theorem group_withMark
    (level : Level) (mark : UInt32) :
    (level.withMark mark).group = level.group := by
  rfl

@[simp] theorem group_nextAlternative
    (level : Level) (pieces : List Piece) :
    (level.nextAlternative pieces).group = level.group := by
  rfl

/-- What was read of the sequence around the group once the group was read, too. -/
def closed
    (level : Level) (alternatives : List (Marked Tree)) : List Piece :=
  level.around ++ [.node (level.group.kind.tree alternatives)]

end Level

/-- Where reading a pattern is between two turns,
with the open groups, the innermost first. -/
inductive Point where
  /-- In front of an alternative of the innermost group, and of its mark. -/
  | alternative (level : Level) (levels : List Level) (offset : Nat)
  /-- In a sequence, behind some of its pieces. -/
  | sequence (levels : List Level) (pieces : List Piece) (offset : Nat)
  /-- Behind the sequence that is an alternative of the innermost group. -/
  | behind (level : Level) (levels : List Level) (pieces : List Piece) (offset : Nat)
  /-- In a capture that was opened at `start`, behind a part of its body. -/
  | capture (levels : List Level) (pieces : List Piece) (start : Nat) (body : List Char)
      (offset : Nat)
  /-- In a slot that was opened at `start`, in front of its body. -/
  | slot (levels : List Level) (pieces : List Piece) (start offset : Nat)

/-- What a turn leads to. -/
inductive Outcome where
  | going (p : Point)
  | done (result : Except Fault Tree)
  /-- The text was to be cut at an offset that is not between two of its characters. -/
  | offBoundary
  /-- Behind an alternative stands neither a bar nor the closer of its group. -/
  | strayStop

/-- Look at the text behind an offset. -/
def lookAt
    (source : List Char) (offset : Nat) (f : List Char → Outcome) : Outcome :=
  match dropBytes? offset source with
  | none => .offBoundary
  | some rest => f rest

@[simp] theorem lookAt_of_some
    {source rest : List Char} {offset : Nat}
    (h : dropBytes? offset source = some rest)
    (f : List Char → Outcome) :
    lookAt source offset f = f rest := by
  simp [lookAt, h]

namespace Point

/-- The turn at a character that does not end the sequence. -/
def pieceTurn
    (source : List Char) (levels : List Level) (pieces : List Piece) (offset : Nat) :
    Char → Outcome
  | '\\' =>
      lookAt source (offset + 1) fun
        | [] => .done (.error (.danglingEscape offset))
        | e :: _ =>
            .going (.sequence levels (pieces ++ [.char e]) (offset + 1 + e.utf8Size))
  | '[' => .going (.alternative (.opened .optional offset pieces) levels (offset + 1))
  | '(' => .going (.alternative (.opened .choice offset pieces) levels (offset + 1))
  | '<' => .going (.capture levels pieces offset [] (offset + 1))
  | '%' => .going (.slot levels pieces offset (offset + 1))
  | ']' => .done (.error (.unmatched ']' offset))
  | ')' => .done (.error (.unmatched ')' offset))
  | '|' => .done (.error (.unmatched '|' offset))
  | c => .going (.sequence levels (pieces ++ [.char c]) (offset + c.utf8Size))

/-- A turn of a sequence: at the end of the text, at a
character that ends the sequence, or at another one. -/
def sequenceTurn
    (source : List Char) (pieces : List Piece) (offset : Nat) :
    List Level → List Char → Outcome
  | [], [] => .done (.ok (Tree.ofPieces pieces))
  | level :: _, [] => .done (.error level.group.unclosed)
  | [], c :: _ => pieceTurn source [] pieces offset c
  | level :: levels, c :: _ =>
      if stops (some level.group) c then
        .going (.behind level levels pieces offset)
      else
        pieceTurn source (level :: levels) pieces offset c

/-- The turn behind the sequence of an alternative. -/
def behindTurn
    (level : Level) (levels : List Level) (pieces : List Piece) (offset : Nat) :
    List Char → Outcome
  | [] => .strayStop
  | c :: _ =>
      if c = '|' then
        .going (.alternative (level.nextAlternative pieces) levels (offset + 1))
      else if c = level.group.kind.closer then
        .going (.sequence levels (level.closed (level.alternatives pieces)) (offset + 1))
      else
        .strayStop

/-- The turn at the closing delimiter of a capture. -/
def captureEnd
    [Regex.Dialect]
    (levels : List Level) (pieces : List Piece) (start : Nat)
    (body : List Char) (stop : Nat) :
    Outcome :=
  match Regex.Dialect.complaint? body with
  | some reason => .done (.error (.badCapture (String.ofList body) reason start stop))
  | none =>
      .going (.sequence levels (pieces ++ [.node (.capture (String.ofList body))]) stop)

/-- A turn of a capture. -/
def captureTurn
    [Regex.Dialect]
    (source : List Char) (levels : List Level) (pieces : List Piece) (start : Nat)
    (body : List Char) (offset : Nat) : List Char → Outcome
  | [] => .done (.error (.unclosed '<' '>' start))
  | '>' :: _ => captureEnd levels pieces start body (offset + 1)
  | '\\' :: _ =>
      lookAt source (offset + 1) fun
        | '>' :: _ => .going (.capture levels pieces start (body ++ ['>']) (offset + 2))
        | _ => .going (.capture levels pieces start (body ++ ['\\']) (offset + 1))
  | c :: _ => .going (.capture levels pieces start (body ++ [c]) (offset + c.utf8Size))

/-- The turn of a slot, which is read as a whole. -/
def slotTurn
    (levels : List Level) (pieces : List Piece) (start offset : Nat)
    (rest : List Char) : Outcome :=
  match splitAt? '%' rest with
  | none => .done (.error (.unclosed '%' '%' start))
  | some (body, _) =>
      let stop := offset + byteLength body + 1
      match readSlotBody body with
      | .error fault => .done (.error (fault.toFault start stop))
      | .ok s => .going (.sequence levels (pieces ++ [.node (.slot s)]) stop)

/-- A turn of an alternative, which starts with its mark. -/
def alternativeTurn
    (level : Level) (levels : List Level) (offset : Nat) (rest : List Char) : Outcome :=
  let mark := readMark offset rest
  .going (.sequence (level.withMark mark.value :: levels) [] mark.offset)

/-- A turn of reading a pattern, in front of the rest of it. -/
def turnAt
    [Regex.Dialect]
    (source : List Char) : Point → List Char → Outcome
  | .alternative level levels offset => alternativeTurn level levels offset
  | .sequence levels pieces offset => sequenceTurn source pieces offset levels
  | .behind level levels pieces offset => behindTurn level levels pieces offset
  | .capture levels pieces start body offset =>
      captureTurn source levels pieces start body offset
  | .slot levels pieces start offset => slotTurn levels pieces start offset

def offset : Point → Nat
  | .alternative _ _ offset => offset
  | .sequence _ _ offset => offset
  | .behind _ _ _ offset => offset
  | .capture _ _ _ _ offset => offset
  | .slot _ _ _ offset => offset

/-- A turn of reading a pattern. -/
def turn
    [Regex.Dialect]
    (source : List Char) (p : Point) : Outcome :=
  lookAt source p.offset (p.turnAt source)

/-- The groups that are open, the innermost first. -/
def groups : Point → List OpenGroup
  | .alternative level levels _ => (level :: levels).map Level.group
  | .sequence levels _ _ => levels.map Level.group
  | .behind level levels _ _ => (level :: levels).map Level.group
  | .capture levels _ _ _ _ => levels.map Level.group
  | .slot levels _ _ _ => levels.map Level.group

/-- The number of turns that may pass before the offset moves: an alternative may be
without a mark, and a sequence may end. -/
def pauses : Point → Nat
  | .alternative _ _ _ => 2
  | .sequence _ _ _ => 1
  | _ => 0

/-- Whether a sequence may end in front of the
rest of the text, where reading is behind one. -/
def Stopped
    (rest : List Char) : Point → Prop
  | .behind level _ _ _ => Ends (some level.group) rest
  | _ => True

/-- Whether reading is between two characters of the text,
and behind a sequence only where the sequence may end. -/
def Sound
    (source : List Char) (p : Point) : Prop :=
  ∃ rest, dropBytes? p.offset source = some rest ∧ p.Stopped rest

/-- How far reading gets in a number of turns: the offset moves, or no group is opened or
closed and each of the turns is one of the pauses. -/
def Advances
    (turns : Nat) (p q : Point) : Prop :=
  p.offset < q.offset ∨
    p.offset = q.offset ∧ q.groups = p.groups ∧ q.pauses + turns ≤ p.pauses

theorem Advances.trans
    {m n : Nat} {p q r : Point}
    (h : p.Advances m q)
    (h' : q.Advances n r) :
    p.Advances (m + n) r := by
  obtain hlt | ⟨heq, hgroups, hpauses⟩ := h
  · refine .inl (Nat.lt_of_lt_of_le hlt ?_)
    exact h'.elim Nat.le_of_lt fun h => Nat.le_of_eq h.1
  · obtain hlt | ⟨heq', hgroups', hpauses'⟩ := h'
    · exact .inl (heq ▸ hlt)
    · exact .inr ⟨heq.trans heq', hgroups'.trans hgroups, by omega⟩

theorem pauses_le
    (p : Point) :
    p.pauses ≤ 2 := by
  cases p <;> simp [pauses]

/-- A number of turns that reading takes at most to end. -/
def turnsLeft
    (source : List Char) (p : Point) : Nat :=
  3 * (byteLength source - p.offset) + p.pauses + 1

/-- Each byte allows for three turns: one that moves the offset, and two pauses. -/
theorem Advances.turnsLeft_lt
    {source : List Char} {p q : Point}
    (h : p.Advances 1 q)
    (hq : q.Sound source) :
    q.turnsLeft source < p.turnsLeft source := by
  obtain ⟨rest, hrest, -⟩ := hq
  have hle := Text.le_of_dropBytes? hrest
  have hpauses := q.pauses_le
  unfold turnsLeft
  obtain hlt | ⟨heq, -, hlt⟩ := h <;> omega

end Point

open Point

namespace Outcome

/-- One more turn, unless reading has ended. -/
def next
    [Regex.Dialect]
    (source : List Char) : Outcome → Outcome
  | .going p => p.turn source
  | o => o

/-- Whether a turn from a point on ends the
reading, or leads to a sound point further on. -/
inductive Follows
    (source : List Char) (p : Point) : Outcome → Prop
  | done
      (result : Except Fault Tree) :
      Follows source p (.done result)
  | going
      {q : Point}
      (sound : q.Sound source)
      (advances : p.Advances 1 q) :
      Follows source p (.going q)

end Outcome

section Turns

variable {source rest tail : List Char} {levels : List Level} {level : Level}
  {pieces : List Piece} {offset : Nat} {c : Char}

open Outcome

/-- A turn is sound if it goes on with a part of the text that starts further on. -/
theorem follows_of_lt
    {p q : Point}
    (hrest : dropBytes? q.offset source = some rest)
    (hstopped : q.Stopped rest)
    (hlt : p.offset < q.offset) :
    Follows source p (.going q) := by
  exact .going ⟨rest, hrest, hstopped⟩ (.inl hlt)

theorem follows_pieceTurn
    (h : dropBytes? offset source = some (c :: tail))
    (levels : List Level) (pieces : List Piece) :
    Follows source (.sequence levels pieces offset)
      (pieceTurn source levels pieces offset c) := by
  have htail := dropBytes?_utf8Size h
  fun_cases pieceTurn source levels pieces offset c with
  | case1 =>
      have htail : dropBytes? (offset + 1) source = some tail := htail
      rw [lookAt_of_some htail]
      cases tail with
      | nil =>
          exact .done _
      | cons e rest =>
          refine follows_of_lt (dropBytes?_utf8Size htail) trivial ?_
          simp only [Point.offset]
          omega
  | case2 | case3 | case4 | case5 =>
      exact follows_of_lt htail trivial (Nat.lt_succ_self _)
  | case6 | case7 | case8 =>
      exact .done _
  | case9 =>
      exact follows_of_lt htail trivial (Nat.lt_add_of_pos_right c.utf8Size_pos)

theorem follows_sequenceTurn
    (h : dropBytes? offset source = some rest)
    (levels : List Level) (pieces : List Piece) :
    Follows source (.sequence levels pieces offset)
      (sequenceTurn source pieces offset levels rest) := by
  fun_cases sequenceTurn source pieces offset levels rest with
  | case1 | case2 =>
      exact .done _
  | case3 | case5 =>
      exact follows_pieceTurn h _ _
  | case4 level levels c tail hstops =>
      exact .going ⟨_, h, ends_of_stops hstops tail⟩ (.inr ⟨rfl, rfl, Nat.le_refl _⟩)

/-- Behind a sequence stands what the group goes on with. -/
theorem follows_behindTurn
    (h : dropBytes? offset source = some rest)
    (hends : Ends (some level.group) rest)
    (levels : List Level) (pieces : List Piece) :
    Follows source (.behind level levels pieces offset)
      (behindTurn level levels pieces offset rest) := by
  obtain ⟨c, tail, rfl, hc⟩ := hends
  have htail := dropBytes?_utf8Size h
  unfold behindTurn
  dsimp only
  by_cases hbar : c = '|'
  · subst hbar
    rw [if_pos rfl]
    exact follows_of_lt htail trivial (Nat.lt_succ_self _)
  · have hcloser := hc.resolve_left hbar
    have hsize : c.utf8Size = 1 := by
      rw [hcloser]
      rcases level.group.kind.closer_eq_or with hk | hk <;> rw [hk] <;> rfl
    rw [if_neg hbar, if_pos hcloser]
    rw [hsize] at htail
    exact follows_of_lt htail trivial (Nat.lt_succ_self _)

theorem follows_captureTurn
    [Regex.Dialect]
    (h : dropBytes? offset source = some rest)
    (levels : List Level) (pieces : List Piece) (start : Nat) (body : List Char) :
    Follows source (.capture levels pieces start body offset)
      (captureTurn source levels pieces start body offset rest) := by
  fun_cases captureTurn source levels pieces start body offset rest with
  | case1 => exact .done _
  | case2 tail =>
      unfold captureEnd
      split
      · exact .done _
      · exact follows_of_lt (dropBytes?_utf8Size h) trivial (Nat.lt_succ_self _)
  | case3 tail =>
      have htail : dropBytes? (offset + 1) source = some tail := dropBytes?_utf8Size h
      rw [lookAt_of_some htail]
      split
      · exact follows_of_lt (dropBytes?_utf8Size htail) trivial
          (Nat.lt_add_of_pos_right Nat.two_pos)
      · exact follows_of_lt htail trivial (Nat.lt_succ_self _)
  | case4 c tail =>
      exact follows_of_lt (dropBytes?_utf8Size h) trivial
        (Nat.lt_add_of_pos_right c.utf8Size_pos)

theorem follows_slotTurn
    (h : dropBytes? offset source = some rest)
    (levels : List Level) (pieces : List Piece) (start : Nat) :
    Follows source (.slot levels pieces start offset)
      (slotTurn levels pieces start offset rest) := by
  unfold slotTurn
  split
  · exact .done _
  · rename_i body after hsplit
    rw [eq_append_of_splitAt? hsplit] at h
    have hstop := dropBytes?_utf8Size (dropBytes?_add h)
    dsimp only
    split
    · exact .done _
    · refine follows_of_lt hstop trivial ?_
      simp only [Point.offset]
      omega

/-- Behind the mark of an alternative, if it has one, stands what is read next. -/
theorem dropBytes?_readMark
    (h : dropBytes? offset source = some rest) :
    dropBytes? (readMark offset rest).offset source = some (readMark offset rest).rest ∧
      offset ≤ (readMark offset rest).offset := by
  rcases readMark_eq offset rest with
    ⟨-, -, hrest, hoffset⟩ | ⟨digits, hrest, -, -, hoffset⟩
  · rw [hrest, hoffset]
    exact ⟨h, Nat.le_refl _⟩
  · rw [hrest] at h
    rw [hoffset]
    exact ⟨dropBytes?_utf8Size (dropBytes?_add h), by omega⟩

theorem follows_alternativeTurn
    (h : dropBytes? offset source = some rest)
    (level : Level) (levels : List Level) :
    Follows source (.alternative level levels offset)
      (alternativeTurn level levels offset rest) := by
  obtain ⟨hmark, hle⟩ := dropBytes?_readMark h
  refine .going ⟨_, hmark, trivial⟩ ?_
  rcases Nat.lt_or_eq_of_le hle with hlt | heq
  · exact .inl hlt
  · exact .inr ⟨heq, rfl, Nat.le_refl _⟩

/-- A turn from a sound point ends the reading, or leads to a sound point further on. -/
theorem Point.Sound.turn
    [Regex.Dialect]
    {p : Point}
    (h : p.Sound source) :
    Follows source p (p.turn source) := by
  obtain ⟨rest, hrest, hstopped⟩ := h
  rw [Point.turn, lookAt_of_some hrest]
  cases p with
  | alternative level levels offset => exact follows_alternativeTurn hrest level levels
  | sequence levels pieces offset => exact follows_sequenceTurn hrest levels pieces
  | behind level levels pieces offset =>
      exact follows_behindTurn hrest hstopped levels pieces
  | capture levels pieces start body offset =>
      exact follows_captureTurn hrest levels pieces start body
  | slot levels pieces start offset => exact follows_slotTurn hrest levels pieces start

end Turns

section Runs

variable {source : List Char} {o : Outcome} {p q : Point} {n : Nat}

open Outcome

theorem iterate_next_done
    [Regex.Dialect]
    (source : List Char) (result : Except Fault Tree) (n : Nat) :
    (next source)^[n] (.done result) = .done result := by
  exact Function.iterate_fixed rfl n

/-- What reading goes on from was not the end. -/
theorem exists_of_next_eq_going
    [Regex.Dialect]
    (h : o.next source = .going q) :
    ∃ p, o = .going p := by
  cases o with
  | going p => exact ⟨p, rfl⟩
  | _ => cases h

/-- Reading goes on from one sound point to the next. -/
theorem Point.Sound.iterate
    [Regex.Dialect]
    (hp : p.Sound source)
    (h : (next source)^[n] (.going p) = .going q) :
    q.Sound source ∧ p.Advances n q := by
  induction n generalizing q with
  | zero =>
      cases h
      exact ⟨hp, .inr ⟨rfl, rfl, Nat.le_refl _⟩⟩
  | succ n ih =>
      rw [Function.iterate_succ_apply'] at h
      obtain ⟨r, hr⟩ := exists_of_next_eq_going h
      obtain ⟨hsound, hadvances⟩ := ih hr
      have hturn := hsound.turn
      rw [hr] at h
      have hq : r.turn source = .going q := h
      rw [hq] at hturn
      cases hturn with
      | going sound advances => exact ⟨sound, hadvances.trans advances⟩

/-- No turn from a sound point on cuts the text between the bytes of a character, or
finds something else behind an alternative than what its group goes on with. -/
theorem Point.Sound.going_or_done
    [Regex.Dialect]
    (hp : p.Sound source)
    (n : Nat) :
    (∃ q, (next source)^[n] (.going p) = .going q) ∨
      ∃ result, (next source)^[n] (.going p) = .done result := by
  induction n with
  | zero =>
      exact .inl ⟨p, rfl⟩
  | succ n ih =>
      rw [Function.iterate_succ_apply']
      obtain ⟨q, hq⟩ | ⟨result, hresult⟩ := ih
      · have hturn := (hp.iterate hq).1.turn
        rw [hq, Outcome.next]
        cases hnext : q.turn source with
        | going r => exact .inl ⟨r, rfl⟩
        | done result => exact .inr ⟨result, rfl⟩
        | _ =>
            rw [hnext] at hturn
            cases hturn
      · rw [hresult]
        exact .inr ⟨result, rfl⟩

/-- Reading from a sound point ends. -/
theorem Point.Sound.exists_done
    [Regex.Dialect]
    (hp : p.Sound source) :
    ∃ n ≤ p.turnsLeft source, ∃ result, (next source)^[n] (.going p) = .done result := by
  -- each turn that does not end the reading leaves fewer turns
  induction hleft : p.turnsLeft source using Nat.strongRecOn generalizing p with
  | ind left ih =>
      have hturn := hp.turn
      cases hnext : p.turn source with
      | done result => exact ⟨1, by simp [← hleft, Point.turnsLeft], result, hnext⟩
      | going q =>
          rw [hnext] at hturn
          cases hturn with
          | going sound advances =>
              have hlt := advances.turnsLeft_lt sound
              obtain ⟨n, hn, result, hresult⟩ := ih _ (hleft ▸ hlt) sound rfl
              refine ⟨n + 1, by omega, result, ?_⟩
              rw [Function.iterate_succ_apply, Outcome.next, hnext, hresult]
      | _ =>
          rw [hnext] at hturn
          cases hturn

/-- Reading a pattern from its start, after a number of turns. -/
def turns
    [Regex.Dialect]
    (source : List Char) (n : Nat) : Outcome :=
  (next source)^[n] (.going (.sequence [] [] 0))

theorem turns_add
    [Regex.Dialect]
    (source : List Char) (m n : Nat) :
    turns source (m + n) = (next source)^[n] (turns source m) := by
  rw [turns, Nat.add_comm, Function.iterate_add_apply]
  rfl

theorem sound_start
    (source : List Char) :
    Point.Sound source (.sequence [] [] 0) := by
  exact ⟨source, dropBytes?_eq_some_iff.2 ⟨[], rfl, rfl⟩, trivial⟩

theorem sound_of_turns
    [Regex.Dialect]
    (h : turns source n = .going p) :
    p.Sound source := by
  exact ((sound_start source).iterate h).1

/-- Whether reading gets from one outcome to another. -/
def Outcome.Leads
    [Regex.Dialect]
    (source : List Char) (o o' : Outcome) : Prop :=
  ∃ n, (next source)^[n] o = o'

theorem Outcome.Leads.refl
    [Regex.Dialect]
    (source : List Char) (o : Outcome) :
    Leads source o o := by
  exact ⟨0, rfl⟩

theorem Outcome.Leads.trans
    [Regex.Dialect]
    {o o' o'' : Outcome}
    (h : Leads source o o')
    (h' : Leads source o' o'') :
    Leads source o o'' := by
  obtain ⟨m, rfl⟩ := h
  obtain ⟨n, rfl⟩ := h'
  exact ⟨n + m, Function.iterate_add_apply _ n m o⟩

theorem Outcome.Leads.turn
    [Regex.Dialect]
    {rest : List Char}
    (h : dropBytes? p.offset source = some rest) :
    Leads source (.going p) (p.turnAt source rest) := by
  exact ⟨1, lookAt_of_some h _⟩

/-- Reading ends in one way only. -/
theorem Outcome.Leads.done_unique
    [Regex.Dialect]
    {result result' : Except Fault Tree}
    (h : Leads source o (.done result))
    (h' : Leads source o (.done result')) :
    result = result' := by
  obtain ⟨m, hm⟩ := h
  obtain ⟨n, hn⟩ := h'
  have hboth := Function.iterate_add_apply (next source) n m o
  rw [Nat.add_comm, Function.iterate_add_apply, hm, hn, iterate_next_done,
    iterate_next_done] at hboth
  cases hboth
  rfl

end Runs

end Pattern
end TriggerScript
