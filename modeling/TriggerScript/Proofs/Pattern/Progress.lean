import TriggerScript.Proofs.Pattern.Derivation
import TriggerScript.Proofs.Pattern.Faults
import TriggerScript.Proofs.Pattern.Turns

/-!
# Progress in reading a pattern

The turns that a pattern is read in carry out the readers: they get from where a reader
starts to where it ends, or to the fault that it fails with. So reading ends with what
the pattern is read as, after at most three turns for each byte of it and two more. On
the way the offset is always between two characters, nothing comes back to where it
started, and behind an alternative stands a bar or the closer of its group.
-/

namespace TriggerScript
namespace Pattern

open Text (byteLength dropBytes? dropBytes?_add dropBytes?_utf8Size
  dropBytes?_eq_some_iff)
open Pattern.Derivation (escapeCapture_cons)
open Point Outcome

/-- The group that sequences at some levels are part of. -/
def innermost?
    (levels : List Level) : Option OpenGroup :=
  levels.head?.map Level.group

@[simp] theorem innermost?_nil :
    innermost? [] = none := by
  rfl

@[simp] theorem innermost?_cons
    (level : Level) (levels : List Level) :
    innermost? (level :: levels) = some level.group := by
  rfl

section Returns

/-- Where reading is once the other pieces of a sequence were read. -/
def afterPieces
    {cs : List Char} (levels : List Level) (pieces : List Piece) :
    Except Fault (Read (List Piece) cs) → Outcome
  | .error fault => .done (.error fault)
  | .ok r =>
      match levels with
      | [] => .done (.ok (Tree.ofPieces (pieces ++ r.value)))
      | level :: outer => .going (.behind level outer (pieces ++ r.value) r.offset)

/-- Where reading is once one more piece was read. -/
def afterPiece
    {cs : List Char} (levels : List Level) (pieces : List Piece) :
    Except Fault (Read Piece cs) → Outcome
  | .error fault => .done (.error fault)
  | .ok r => .going (.sequence levels (pieces ++ [r.value]) r.offset)

/-- Where reading is once the other alternatives of a group were read. -/
def afterAlternatives
    {cs : List Char} (level : Level) (levels : List Level) :
    Except Fault (Read (List (Marked Tree)) cs) → Outcome
  | .error fault => .done (.error fault)
  | .ok r => .going (.sequence levels (level.closed (level.earlier ++ r.value)) r.offset)

/-- Where reading is once the other characters of a
capture were read, or it was found to have no end. -/
def afterCapture
    [Regex.Dialect]
    (levels : List Level) (pieces : List Piece) (start : Nat)
    (earlier : List Char) (offset : Nat) :
    Option (List Char × List Char) → Outcome
  | none => .done (.error (.unclosed '<' '>' start))
  | some (body, _) =>
      captureEnd levels pieces start (earlier ++ body) (offset + captureLength body + 1)

/-- The current alternative of a group comes before those behind the next bar. -/
theorem closed_nextAlternative
    (level : Level) (mark : UInt32) (pieces : List Piece) (others : List (Marked Tree)) :
    ((level.withMark mark).nextAlternative pieces).closed
        (((level.withMark mark).nextAlternative pieces).earlier ++ others) =
      level.closed (level.earlier ++ ⟨mark, Tree.ofPieces pieces⟩ :: others) := by
  simp [Level.closed, Level.nextAlternative, Level.alternatives, Level.withMark]

end Returns

section Captures

variable {source : List Char} {offset : Nat}

theorem captureLength_cons
    (c : Char) (body : List Char) :
    captureLength (c :: body) =
      (if c = '>' then 2 else c.utf8Size) + captureLength body := by
  unfold captureLength
  rw [escapeCapture_cons, Text.byteLength_append]
  split
  · rename_i hc
    subst hc
    rfl
  · rfl

/-- A character of a body comes before the others. -/
theorem afterCapture_map
    [Regex.Dialect]
    (c : Char) (levels : List Level) (pieces : List Piece) (start : Nat)
    (earlier : List Char)
    (offset : Nat) (read : Option (List Char × List Char)) :
    afterCapture levels pieces start earlier offset (read.map fun r => (c :: r.1, r.2)) =
      afterCapture levels pieces start (earlier ++ [c])
        (offset + if c = '>' then 2 else c.utf8Size) read := by
  cases read with
  | none => rfl
  | some r => simp [afterCapture, captureLength_cons, Nat.add_assoc]

/-- A character of a capture that neither ends it
nor escapes its end is part of the body. -/
theorem captureTurn_cons
    [Regex.Dialect]
    {c : Char} {tail : List Char}
    (hc : c ≠ '>')
    (hescape : ∀ rest, c = '\\' → tail ≠ '>' :: rest)
    (h : dropBytes? offset source = some (c :: tail))
    (levels : List Level) (pieces : List Piece) (start : Nat) (body : List Char) :
    captureTurn source levels pieces start body offset (c :: tail) =
      .going (.capture levels pieces start (body ++ [c]) (offset + c.utf8Size)) := by
  by_cases hbackslash : c = '\\'
  · subst hbackslash
    have htail : dropBytes? (offset + 1) source = some tail := dropBytes?_utf8Size h
    rw [captureTurn, lookAt_of_some htail]
    split
    · exact absurd rfl (hescape _ rfl)
    · rfl
  · unfold captureTurn
    split <;> simp_all

/-- The turns in a capture read it up to its end. -/
theorem leads_capture
    [Regex.Dialect]
    {cs : List Char}
    (h : dropBytes? offset source = some cs)
    (levels : List Level) (pieces : List Piece) (start : Nat) (earlier : List Char) :
    Leads source (.going (.capture levels pieces start earlier offset))
      (afterCapture levels pieces start earlier offset (splitCapture? cs)) := by
  have hturn := Leads.turn (p := .capture levels pieces start earlier offset) h
  fun_induction splitCapture? cs generalizing offset earlier with
  | case1 =>
      exact hturn
  | case2 cs =>
      rw [afterCapture, List.append_nil]
      exact hturn
  | case3 cs ih =>
      have htail : dropBytes? (offset + 1) source = some ('>' :: cs) :=
        dropBytes?_utf8Size h
      have hrest : dropBytes? (offset + 2) source = some cs := dropBytes?_utf8Size htail
      rw [afterCapture_map]
      refine hturn.trans ?_
      rw [turnAt, captureTurn, lookAt_of_some htail]
      exact ih hrest (earlier ++ ['>']) (Leads.turn hrest)
  | case4 c cs hc hescape ih =>
      have hrest := dropBytes?_utf8Size h
      rw [afterCapture_map, if_neg (hc ·)]
      refine hturn.trans ?_
      rw [turnAt, captureTurn_cons hc hescape h]
      exact ih hrest (earlier ++ [c]) (Leads.turn hrest)

theorem readCapture_of_accepted
    [Regex.Dialect]
    {cs body rest : List Char}
    (h : splitCapture? cs = some (body, rest))
    (haccepted : Regex.Dialect.complaint? body = none)
    (start : Nat) :
    readCapture start cs =
      .ok ⟨.capture (String.ofList body), start + 1 + captureLength body + 1, rest,
        splitCapture?_length h⟩ := by
  unfold readCapture
  split
  · rename_i hnone
    cases hnone.symm.trans h
  · rename_i hsome
    cases hsome.symm.trans h
    dsimp only
    split
    · rename_i hcomplaint
      cases hcomplaint.symm.trans haccepted
    · rfl

theorem afterPiece_readCapture
    [Regex.Dialect]
    (levels : List Level) (pieces : List Piece) (start : Nat) (cs : List Char) :
    afterPiece levels pieces ((readCapture start cs).map (Read.map .node)) =
      afterCapture levels pieces start [] (start + 1) (splitCapture? cs) := by
  cases hsplit : splitCapture? cs with
  | none =>
      rw [readCapture_of_unclosed hsplit]
      rfl
  | some r =>
      rw [afterCapture, List.nil_append, captureEnd]
      cases hcomplaint : Regex.Dialect.complaint? r.1 with
      | some reason =>
          rw [readCapture_of_rejected hsplit hcomplaint]
          rfl
      | none =>
          rw [readCapture_of_accepted hsplit hcomplaint]
          rfl

end Captures

section Slots

theorem readSlot_of_accepted
    {cs body rest : List Char} {slot : Slot}
    (h : splitAt? '%' cs = some (body, rest))
    (haccepted : readSlotBody body = .ok slot)
    (start : Nat) :
    readSlot start cs =
      .ok ⟨.slot slot, start + 1 + byteLength body + 1, rest, splitAt?_length h⟩ := by
  unfold readSlot
  split
  · rename_i hnone
    cases hnone.symm.trans h
  · rename_i hsome
    cases hsome.symm.trans h
    dsimp only
    split
    · rename_i hfault
      cases hfault.symm.trans haccepted
    · rename_i hslot
      cases hslot.symm.trans haccepted
      rfl

theorem afterPiece_readSlot
    (levels : List Level) (pieces : List Piece) (start : Nat) (cs : List Char) :
    afterPiece levels pieces ((readSlot start cs).map (Read.map .node)) =
      slotTurn levels pieces start (start + 1) cs := by
  unfold slotTurn
  cases hsplit : splitAt? '%' cs with
  | none =>
      rw [readSlot_of_unclosed hsplit]
      rfl
  | some r =>
      dsimp only
      cases hbody : readSlotBody r.1 with
      | error fault =>
          rw [readSlot_of_rejected hsplit hbody]
          rfl
      | ok slot =>
          rw [readSlot_of_accepted hsplit hbody]
          rfl

end Slots

section Readers

variable {source : List Char} {levels : List Level} {offset : Nat}

theorem sequenceTurn_cons
    {c : Char}
    (hstops : stops (innermost? levels) c = false)
    (source : List Char) (pieces : List Piece) (offset : Nat) (tail : List Char) :
    sequenceTurn source pieces offset levels (c :: tail) =
      pieceTurn source levels pieces offset c := by
  cases levels with
  | nil =>
      rfl
  | cons level levels =>
      exact if_neg (by simpa using hstops)

theorem dropBytes?_of_readPiece
    [Regex.Dialect]
    {c : Char} {tail : List Char} {r : Read Piece tail}
    (hr : readPiece offset c tail = .ok r)
    (h : dropBytes? offset source = some (c :: tail)) :
    dropBytes? r.offset source = some r.rest := by
  obtain ⟨s, hs, -, hoffset⟩ := readPiece_sound offset c tail r hr
  rw [hs] at h
  rw [hoffset]
  exact dropBytes?_add h

theorem dropBytes?_of_readPieces
    [Regex.Dialect]
    {g : Option OpenGroup} {cs : List Char} {r : Read (List Piece) cs}
    (hr : readPieces g offset cs = .ok r)
    (h : dropBytes? offset source = some cs) :
    dropBytes? r.offset source = some r.rest := by
  obtain ⟨s, hs, -, -, hoffset⟩ := readPieces_sound g offset cs r hr
  rw [hs] at h
  rw [hoffset]
  exact dropBytes?_add h

-- by the recursion of the readers, whatever was read in front and whatever groups are
-- around

mutual

/-- The turns in a sequence read the other pieces of it. -/
theorem leads_pieces
    [Regex.Dialect]
    (source : List Char) (levels : List Level) (pieces : List Piece) (offset : Nat) :
    (cs : List Char) → dropBytes? offset source = some cs →
      Leads source (.going (.sequence levels pieces offset))
        (afterPieces levels pieces (readPieces (innermost? levels) offset cs))
  | [], h => by
      have hturn := Leads.turn (p := .sequence levels pieces offset) h
      unfold readPieces
      cases levels with
      | nil =>
          rw [turnAt, sequenceTurn] at hturn
          simpa [afterPieces] using hturn
      | cons level levels =>
          exact hturn
  | c :: tail, h => by
      cases hstops : stops (innermost? levels) c with
      | true =>
          have hturn := Leads.turn (p := .sequence levels pieces offset) h
          unfold readPieces
          rw [if_pos hstops]
          cases levels with
          | nil =>
              cases hstops
          | cons level levels =>
              rw [innermost?_cons] at hstops
              rw [turnAt, sequenceTurn, if_pos hstops] at hturn
              simpa only [afterPieces, List.append_nil] using hturn
      | false =>
          have hpiece := leads_piece source levels pieces offset c tail hstops h
          unfold readPieces
          rw [if_neg (by simp [hstops])]
          cases hfirst : readPiece offset c tail with
          | error fault =>
              rwa [hfirst] at hpiece
          | ok first =>
              rw [hfirst] at hpiece
              have hothers :=
                leads_pieces source levels (pieces ++ [first.value]) first.offset
                  first.rest (dropBytes?_of_readPiece hfirst h)
              have hboth := hpiece.trans hothers
              dsimp only
              split
              · rename_i fault hfault
                rwa [hfault] at hboth
              · rename_i others hok
                rw [hok] at hboth
                cases levels <;> simpa [afterPieces, Read.map, Read.within] using hboth
termination_by cs => (cs.length, 1)
decreasing_by
  · exact Prod.Lex.right _ (by omega)
  · exact Prod.Lex.left _ _ (Nat.lt_succ_of_le first.rest_le)

/-- The turns from a character on that does not end
the sequence read the piece that starts there. -/
theorem leads_piece
    [Regex.Dialect]
    (source : List Char) (levels : List Level) (pieces : List Piece)
    (offset : Nat) (c : Char)
    (tail : List Char)
    (hstops : stops (innermost? levels) c = false)
    (h : dropBytes? offset source = some (c :: tail)) :
    Leads source (.going (.sequence levels pieces offset))
      (afterPiece levels pieces (readPiece offset c tail)) := by
  have htail := dropBytes?_utf8Size h
  have hturn := Leads.turn (p := .sequence levels pieces offset) h
  rw [turnAt, sequenceTurn_cons hstops] at hturn
  unfold readPiece
  split
  · have htail : dropBytes? (offset + 1) source = some tail := htail
    rw [pieceTurn, lookAt_of_some htail] at hturn
    split <;> exact hturn
  · have halternatives :=
      leads_alternatives source (.opened .optional offset pieces) levels
        (offset + 1) tail htail
    refine hturn.trans (halternatives.trans ?_)
    split <;> rename_i hr <;> rw [Level.opened, hr] <;> exact .refl _ _
  · have halternatives :=
      leads_alternatives source (.opened .choice offset pieces) levels
        (offset + 1) tail htail
    refine hturn.trans (halternatives.trans ?_)
    split <;> rename_i hr <;> rw [Level.opened, hr] <;> exact .refl _ _
  · rw [afterPiece_readCapture]
    exact hturn.trans (leads_capture htail levels pieces offset [])
  · rw [afterPiece_readSlot]
    exact hturn.trans (Leads.turn (p := .slot levels pieces offset (offset + 1)) htail)
  · exact hturn
  · exact hturn
  · exact hturn
  · rwa [pieceTurn] at hturn <;> assumption
termination_by (tail.length + 1, 0)
decreasing_by
  all_goals exact Prod.Lex.left _ _ (by omega)

/-- The turns from the start of an alternative read it and the others of its group. -/
theorem leads_alternatives
    [Regex.Dialect]
    (source : List Char) (level : Level) (levels : List Level)
    (offset : Nat) (cs : List Char)
    (h : dropBytes? offset source = some cs) :
    Leads source (.going (.alternative level levels offset))
      (afterAlternatives level levels (readAlternatives level.group offset cs)) := by
  obtain ⟨hmark, -⟩ := dropBytes?_readMark h
  have hpieces := leads_pieces source
    (level.withMark (readMark offset cs).value :: levels) [] _ _ hmark
  have hleads := (Leads.turn (p := .alternative level levels offset) h).trans hpieces
  rw [innermost?_cons, Level.group_withMark] at hleads
  unfold readAlternatives
  dsimp only
  cases hr : readPieces (some level.group) (readMark offset cs).offset
    (readMark offset cs).rest with
  | error fault =>
      rwa [hr] at hleads
  | ok pieces =>
      rw [hr] at hleads
      have hrest := dropBytes?_of_readPieces hr hmark
      have hbehind := hleads.trans (Leads.turn hrest)
      -- a sequence in a group ends in front of a bar or the closer, so nothing else is
      -- left
      obtain ⟨-, -, -, ⟨c, rest, hcons, hc⟩, -⟩ :=
        readPieces_sound (some level.group) _ _ pieces hr
      dsimp only
      split
      · rename_i hnil
        cases hnil.symm.trans hcons
      · rename_i d tail hcons'
        cases hcons'.symm.trans hcons
        rw [hcons] at hrest hbehind
        rw [turnAt, behindTurn, List.nil_append] at hbehind
        by_cases hbar : c = '|'
        · subst hbar
          rw [if_pos rfl] at hbehind ⊢
          have hothers := leads_alternatives source
            ((level.withMark (readMark offset cs).value).nextAlternative pieces.value)
            levels (pieces.offset + 1) rest (dropBytes?_utf8Size hrest)
          have hboth := hbehind.trans hothers
          rw [Level.group_nextAlternative, Level.group_withMark] at hboth
          split
          · rename_i fault hfault
            rwa [hfault] at hboth
          · rename_i others hok
            rwa [hok, afterAlternatives, closed_nextAlternative] at hboth
        · have hcloser := hc.resolve_left hbar
          rw [Level.group_withMark, if_neg hbar, if_pos hcloser] at hbehind
          rw [if_neg hbar, if_pos hcloser]
          exact hbehind
termination_by (cs.length, 2)
decreasing_by
  · exact Prod.Lex.right' _ (readMark offset cs).rest_le (by omega)
  · have hle := Nat.le_trans pieces.rest_le (readMark offset cs).rest_le
    rw [hcons] at hle
    exact Prod.Lex.left _ _ hle

end

/-- The turns from the start of a pattern on read it. -/
theorem leads_parse
    [Regex.Dialect]
    (source : List Char) :
    Leads source (.going (.sequence [] [] 0)) (.done (parse source)) := by
  have hleads :=
    leads_pieces source [] [] 0 source (dropBytes?_eq_some_iff.2 ⟨[], rfl, rfl⟩)
  rw [innermost?_nil] at hleads
  unfold parse
  cases hr : readPieces none 0 source with
  | error fault => rwa [hr] at hleads
  | ok r => rwa [hr] at hleads

end Readers

/-- What reading a pattern turn by turn is like: it ends, and
until then it never stands still and never leaves the text. -/
structure Advancing
    [Regex.Dialect]
    (source : List Char) : Prop where
  /-- Reading ends with what the pattern is read as. -/
  ends : ∃ n ≤ 3 * byteLength source + 2, turns source n = .done (parse source)
  /-- The text is only cut between two characters, and an
  alternative is only followed by what its group goes on with. -/
  regular : ∀ n, turns source n ≠ .offBoundary ∧ turns source n ≠ .strayStop
  /-- The offset is between two characters of the text. -/
  boundary :
    ∀ {n p}, turns source n = .going p →
      ∃ before after, source = before ++ after ∧ p.offset = byteLength before
  /-- Later on the offset is greater, or no group was
  opened or closed and all turns since were pauses. -/
  onward :
    ∀ {n k p q}, turns source n = .going p →
      turns source (n + k) = .going q → p.Advances k q
  /-- A loop is further on when it comes back to its start: to the next alternative of a
  group, the next piece of a sequence, or the next character of a capture. -/
  loops :
    ∀ {n k p q}, turns source n = .going p → turns source (n + k) = .going q → 0 < k →
      q.pauses = p.pauses → p.offset < q.offset
  /-- A sequence that is part of a group ends in
  front of a bar or of the closer of that group. -/
  stops :
    ∀ {n level levels pieces offset},
      turns source n = .going (.behind level levels pieces offset) →
        ∃ before c after, source = before ++ c :: after ∧ offset = byteLength before ∧
          (c = '|' ∨ c = level.group.kind.closer)
  /-- From the start of a sequence that is part of a group, the
  turns get to what the reader of pieces reads. That ends
  further on or at once, in front of what ends the sequence. -/
  sequences :
    ∀ {n level levels offset},
      turns source n = .going (.sequence (level :: levels) [] offset) →
      ∃ rest, dropBytes? offset source = some rest ∧
        match readPieces (some level.group) offset rest with
        | .error fault => ∃ k, turns source (n + k) = .done (.error fault)
        | .ok r =>
            Ends (some level.group) r.rest ∧
              ∃ k, turns source (n + k) =
                  .going (.behind level levels r.value r.offset) ∧
                (offset < r.offset ∨ offset = r.offset ∧ k = 1)
  /-- From the start of an alternative, the turns get to what
  the reader of alternatives reads. That ends further on. -/
  alternatives :
    ∀ {n level levels offset},
      turns source n = .going (.alternative level levels offset) →
      ∃ rest, dropBytes? offset source = some rest ∧
        match readAlternatives level.group offset rest with
        | .error fault => ∃ k, turns source (n + k) = .done (.error fault)
        | .ok r =>
            ∃ k, turns source (n + k) =
                .going (.sequence levels
                  (level.closed (level.earlier ++ r.value)) r.offset) ∧
              offset < r.offset

section Calls

variable [Regex.Dialect] {source : List Char} {level : Level} {levels : List Level}
  {offset n k : Nat} {p q : Point}

theorem exists_turns_of_leads
    {o o' : Outcome}
    (h : Leads source o o')
    (ho : turns source n = o) :
    ∃ k, turns source (n + k) = o' := by
  obtain ⟨k, hk⟩ := h
  exact ⟨k, by rw [turns_add, ho, hk]⟩

theorem advances_of_turns
    (hp : turns source n = .going p)
    (hq : turns source (n + k) = .going q) :
    p.Advances k q := by
  rw [turns_add, hp] at hq
  exact ((sound_of_turns hp).iterate hq).2

/-- What comes back to as many pauses as before is further on. -/
theorem lt_of_pauses_eq
    (hp : turns source n = .going p)
    (hq : turns source (n + k) = .going q)
    (hk : 0 < k)
    (hpauses : q.pauses = p.pauses) :
    p.offset < q.offset := by
  obtain hlt | ⟨-, -, hle⟩ := advances_of_turns hp hq
  · exact hlt
  · omega

/-- A sequence that ends where it started ends with its first turn. -/
theorem lt_or_eq_of_behind
    {pieces : List Piece} {stop : Nat}
    (h : turns source n = .going (.sequence (level :: levels) [] offset))
    (hstop : turns source (n + k) = .going (.behind level levels pieces stop)) :
    offset < stop ∨ offset = stop ∧ k = 1 := by
  obtain hlt | ⟨heq, -, hpauses⟩ := advances_of_turns h hstop
  · exact .inl hlt
  · refine .inr ⟨heq, ?_⟩
    have hne : k ≠ 0 := by
      rintro rfl
      cases h.symm.trans hstop
    have hle : k ≤ 1 := by simpa [pauses] using hpauses
    omega

/-- Behind a group the offset is greater, since the group is closed by a character. -/
theorem lt_of_closed
    {pieces : List Piece} {stop : Nat}
    (h : turns source n = .going (.alternative level levels offset))
    (hstop : turns source (n + k) = .going (.sequence levels pieces stop)) :
    offset < stop := by
  obtain hlt | ⟨-, hgroups, -⟩ := advances_of_turns h hstop
  · exact hlt
  · have hlength := congrArg List.length hgroups
    simp [groups] at hlength

end Calls

/-- Every pattern is read in turns that end, never
stand still and never leave its text. -/
theorem reading_advances
    [Regex.Dialect]
    (source : String) :
    Advancing source.toList := by
  have hstart := sound_start source.toList
  constructor
  case ends =>
    obtain ⟨n, hn, result, hdone⟩ := hstart.exists_done
    have hresult := Leads.done_unique ⟨n, hdone⟩ (leads_parse source.toList)
    exact ⟨n, hn, hresult ▸ hdone⟩
  case regular =>
    intro n
    obtain ⟨p, hp⟩ | ⟨result, hresult⟩ := hstart.going_or_done n
    · rw [turns, hp]
      exact ⟨by simp, by simp⟩
    · rw [turns, hresult]
      exact ⟨by simp, by simp⟩
  case boundary =>
    intro n p hp
    obtain ⟨rest, hrest, -⟩ := sound_of_turns hp
    obtain ⟨before, hsource, hoffset⟩ := dropBytes?_eq_some_iff.1 hrest
    exact ⟨before, rest, hsource, hoffset⟩
  case onward =>
    intro n k p q hp hq
    exact advances_of_turns hp hq
  case loops =>
    intro n k p q hp hq hk hpauses
    exact lt_of_pauses_eq hp hq hk hpauses
  case stops =>
    intro n level levels pieces offset h
    obtain ⟨_, hrest, c, tail, rfl, hc⟩ := sound_of_turns h
    obtain ⟨before, hsource, hoffset⟩ := dropBytes?_eq_some_iff.1 hrest
    exact ⟨before, c, tail, hsource, hoffset, hc⟩
  case sequences =>
    intro n level levels offset h
    obtain ⟨rest, hrest, -⟩ := sound_of_turns h
    have hleads := leads_pieces source.toList (level :: levels) [] offset rest hrest
    rw [innermost?_cons] at hleads
    refine ⟨rest, hrest, ?_⟩
    cases hr : readPieces (some level.group) offset rest with
    | error fault =>
        rw [hr] at hleads
        exact exists_turns_of_leads hleads h
    | ok r =>
        rw [hr] at hleads
        obtain ⟨k, hk⟩ := exists_turns_of_leads hleads h
        obtain ⟨-, -, -, hends, -⟩ :=
          readPieces_sound (some level.group) offset rest r hr
        exact ⟨hends, k, hk, lt_or_eq_of_behind h hk⟩
  case alternatives =>
    intro n level levels offset h
    obtain ⟨rest, hrest, -⟩ := sound_of_turns h
    have hleads := leads_alternatives source.toList level levels offset rest hrest
    refine ⟨rest, hrest, ?_⟩
    cases hr : readAlternatives level.group offset rest with
    | error fault =>
        rw [hr] at hleads
        exact exists_turns_of_leads hleads h
    | ok r =>
        rw [hr] at hleads
        obtain ⟨k, hk⟩ := exists_turns_of_leads hleads h
        exact ⟨k, hk, lt_of_closed h hk⟩

/-- Behind characters of several bytes, the closer of another group ends nothing. -/
example [Regex.Dialect] :
    turns ['é', '[', '|', ')'] 7 = .done (.error (.unmatched ')' 4)) := by
  rfl

end Pattern
end TriggerScript
