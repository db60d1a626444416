import Mathlib.Data.List.Chain
import TriggerScript.Proofs.Pattern.Grammar
import TriggerScript.Proofs.Pattern.Slot

/-!
# Canonical trees

The trees that patterns are read as: texts are as long as they can be, and trees that
stand next to each other make up one compound. Every sequence of pieces makes up such a
tree, and such a tree can be taken apart into its pieces again.
-/

namespace TriggerScript
namespace Pattern

namespace Tree

def isText : Tree → Bool
  | .text _ => true
  | _ => false

def isCompound : Tree → Bool
  | .compound _ => true
  | _ => false

theorem exists_of_isText
    {t : Tree}
    (h : t.isText = true) :
    ∃ s, t = .text s := by
  cases t with
  | text s => exact ⟨s, rfl⟩
  | _ => cases h

/-- Whether trees may stand next to each other: there is no compound among them, no empty
text, and there are no two texts in a row. -/
structure Joined
    (ts : List Tree) : Prop where
  not_compound : ∀ t ∈ ts, t.isCompound = false
  not_empty : ∀ t ∈ ts, t ≠ .text ""
  separated : ts.IsChain fun s t => s.isText = false ∨ t.isText = false

theorem joined_nil :
    Joined [] := by
  exact ⟨by simp, by simp, .nil⟩

theorem Joined.tail
    {t : Tree} {ts : List Tree}
    (h : Joined (t :: ts)) :
    Joined ts :=
  ⟨(List.forall_mem_cons.1 h.not_compound).2, (List.forall_mem_cons.1 h.not_empty).2,
    h.separated.tail⟩

/-- A tree may stand in front of others if it and
the first of them are not both texts. -/
theorem Joined.cons
    {t : Tree} {ts : List Tree}
    (h : Joined ts)
    (hcompound : t.isCompound = false)
    (hempty : t ≠ .text "")
    (hseparated : ∀ s ∈ ts.head?, t.isText = false ∨ s.isText = false) :
    Joined (t :: ts) :=
  ⟨List.forall_mem_cons.2 ⟨hcompound, h.not_compound⟩,
    List.forall_mem_cons.2 ⟨hempty, h.not_empty⟩, h.separated.cons hseparated⟩

theorem Joined.head_not_isText
    {t : Tree} {ts : List Tree}
    (h : Joined (t :: ts))
    (ht : t.isText = true) :
    ∀ s ∈ ts.head?, s.isText = false := by
  intro s hs
  rcases h.separated.rel_head? hs with htext | htext
  · rw [ht] at htext
    cases htext
  · exact htext

mutual

/-- Whether a tree can be what a pattern is read as. -/
def Canonical [Regex.Dialect] : Tree → Prop
  | .text _ => True
  | .optional inner => inner.Canonical
  | .choice alternatives => alternatives ≠ [] ∧ AlternativesCanonical alternatives
  | .capture body =>
      Regex.Dialect.complaint? body.toList = none ∧ body.toList.getLast? ≠ some '\\'
  | .slot s => s.WellFormed
  | .compound children => 1 < children.length ∧ Joined children ∧ AllCanonical children

def AlternativesCanonical [Regex.Dialect] : List (Marked Tree) → Prop
  | [] => True
  | ⟨_, t⟩ :: as => t.Canonical ∧ AlternativesCanonical as

def AllCanonical [Regex.Dialect] : List Tree → Prop
  | [] => True
  | t :: ts => t.Canonical ∧ AllCanonical ts

end

/-- The pieces of a tree that is no compound. -/
def ownPieces : Tree → List Piece
  | .text s => s.toList.map .char
  | t => [.node t]

def pieces : Tree → List Piece
  | .compound children => children.flatMap ownPieces
  | t => t.ownPieces

mutual

/-- The number of characters in the texts of a tree. -/
def letters : Tree → Nat
  | .text s => s.toList.length
  | .optional inner => inner.letters
  | .choice alternatives => lettersOfAlternatives alternatives
  | .capture _ => 0
  | .slot _ => 0
  | .compound children => lettersOfAll children

def lettersOfAlternatives : List (Marked Tree) → Nat
  | [] => 0
  | ⟨_, t⟩ :: as => t.letters + lettersOfAlternatives as

def lettersOfAll : List Tree → Nat
  | [] => 0
  | t :: ts => t.letters + lettersOfAll ts

end

end Tree

namespace Piece

/-- Whether a piece can be part of what a pattern is read as. -/
def Canonical [Regex.Dialect] : Piece → Prop
  | .char _ => True
  | .node t => t.Canonical ∧ t.isText = false ∧ t.isCompound = false

/-- The number of characters in the texts of a piece. -/
def letters : Piece → Nat
  | .char _ => 1
  | .node t => t.letters

end Piece

def lettersOfPieces : List Piece → Nat
  | [] => 0
  | p :: ps => p.letters + lettersOfPieces ps

open Pattern.Tree

@[simp] theorem lettersOfPieces_append
    (ps qs : List Piece) :
    lettersOfPieces (ps ++ qs) = lettersOfPieces ps + lettersOfPieces qs := by
  induction ps with
  | nil =>
      simp [lettersOfPieces]
  | cons p ps ih =>
      simp [lettersOfPieces, ih, Nat.add_assoc]

@[simp] theorem lettersOfPieces_map_char
    (cs : List Char) :
    lettersOfPieces (cs.map .char) = cs.length := by
  induction cs with
  | nil =>
      rfl
  | cons c cs ih =>
      simp [lettersOfPieces, Piece.letters, ih, Nat.add_comm]

theorem lettersOfAll_withText
    (cs : List Char) (ts : List Tree) :
    lettersOfAll (withText cs ts) = cs.length + lettersOfAll ts := by
  cases cs <;> simp [withText, lettersOfAll, Tree.letters]

/-- The characters that pieces start with and the
trees behind them have the letters of the pieces. -/
theorem letters_gather
    (ps : List Piece) :
    (gather ps).1.length + lettersOfAll (gather ps).2 = lettersOfPieces ps := by
  induction ps with
  | nil =>
      rfl
  | cons p ps ih =>
      cases p with
      | char c =>
          simp only [gather, lettersOfPieces, Piece.letters, List.length_cons]
          omega
      | node t =>
          simp only [gather, lettersOfPieces, Piece.letters, lettersOfAll,
            lettersOfAll_withText, List.length_nil]
          omega

theorem letters_ofPieces
    (ps : List Piece) :
    (Tree.ofPieces ps).letters = lettersOfPieces ps := by
  have hjoin : lettersOfAll (joinPieces ps) = lettersOfPieces ps := by
    rw [joinPieces, lettersOfAll_withText, letters_gather]
  have hlist : ∀ ts, (Tree.ofList ts).letters = lettersOfAll ts := by
    intro ts
    match ts with
    | [] => rfl
    | [t] => simp [Tree.ofList, lettersOfAll]
    | s :: t :: ts => rfl
  rw [Tree.ofPieces, hlist, hjoin]

theorem letters_optionalContent
    (as : List (Marked Tree)) :
    (optionalContent as).letters = lettersOfAlternatives as := by
  match as with
  | [] => rfl
  | [⟨mark, t⟩] =>
      rw [optionalContent]
      split <;> simp [Tree.letters, lettersOfAlternatives]
  | a :: b :: as => rfl

/-- Characters in front of pieces are in front of the text that the pieces start with. -/
theorem gather_map_char_append
    (cs : List Char) (ps : List Piece) :
    gather (cs.map .char ++ ps) = (cs ++ (gather ps).1, (gather ps).2) := by
  induction cs with
  | nil =>
      rfl
  | cons c cs ih =>
      simp [gather, ih]

theorem Tree.ownPieces_of_not_isText
    {t : Tree}
    (h : t.isText = false) :
    t.ownPieces = [.node t] := by
  cases t <;> first | rfl | cases h

theorem Tree.pieces_of_not_isCompound
    {t : Tree}
    (h : t.isCompound = false) :
    t.pieces = t.ownPieces := by
  cases t <;> first | rfl | cases h

/-- Joined trees are what their pieces make up; without
a text in front, no character comes before them. -/
theorem gather_flatMap_ownPieces
    {ts : List Tree}
    (h : Joined ts) :
    joinPieces (ts.flatMap ownPieces) = ts ∧
      ((∀ t ∈ ts.head?, t.isText = false) →
        gather (ts.flatMap ownPieces) = ([], ts)) := by
  induction ts with
  | nil =>
      exact ⟨rfl, fun _ => rfl⟩
  | cons t ts ih =>
      obtain ⟨hjoin, hgather⟩ := ih h.tail
      rw [List.flatMap_cons]
      cases htext : t.isText with
      | false =>
          have hcons : gather (t.ownPieces ++ ts.flatMap ownPieces) = ([], t :: ts) := by
            rw [ownPieces_of_not_isText htext, List.singleton_append, gather]
            exact congrArg (fun ts => ([], t :: ts)) hjoin
          exact ⟨by rw [joinPieces, hcons]; rfl, fun _ => hcons⟩
      | true =>
          obtain ⟨s, rfl⟩ := exists_of_isText htext
          have hcons : gather ((Tree.text s).ownPieces ++ ts.flatMap ownPieces) =
              (s.toList, ts) := by
            rw [ownPieces, gather_map_char_append,
              hgather (h.head_not_isText rfl), List.append_nil]
          have hne : s.toList ≠ [] := by
            simpa using h.not_empty _ List.mem_cons_self
          refine ⟨?_, fun hhead => ?_⟩
          · rw [joinPieces, hcons, withText, if_neg (by simpa using hne),
              String.ofList_toList]
          · simp [isText] at hhead

/-- A canonical tree is what its pieces make up. -/
theorem Tree.Canonical.ofPieces_pieces
    [Regex.Dialect]
    {t : Tree}
    (h : t.Canonical) :
    Tree.ofPieces t.pieces = t := by
  cases t with
  | text s =>
      change Tree.ofPieces (s.toList.map .char) = .text s
      rw [Tree.ofPieces, joinPieces]
      have hgather := gather_map_char_append s.toList []
      rw [List.append_nil] at hgather
      rw [hgather]
      by_cases hs : s.toList = []
      · simp [gather, withText, hs, Tree.ofList, ← String.toList_eq_nil_iff.1 hs]
      · simp [gather, withText, hs, Tree.ofList]
  | compound children =>
      rw [Canonical] at h
      obtain ⟨hlength, hjoined, -⟩ := h
      rw [pieces, Tree.ofPieces, (gather_flatMap_ownPieces hjoined).1]
      match children, hlength with
      | s :: t :: ts, _ => rfl
  | _ =>
      rfl

/-- Trees with a text in front may stand next to each
other if they do without and do not start with a text. -/
theorem Tree.Joined.withText
    {ts : List Tree}
    (h : Joined ts)
    (hhead : ∀ t ∈ ts.head?, t.isText = false)
    (cs : List Char) :
    Joined (withText cs ts) := by
  unfold Pattern.withText
  split
  · exact h
  · rename_i hcs
    refine h.cons rfl ?_ fun t ht => .inr (hhead t ht)
    simpa using hcs

theorem canonical_withText
    [Regex.Dialect]
    {ts : List Tree}
    (h : ∀ t ∈ ts, t.Canonical)
    (cs : List Char) :
    ∀ t ∈ withText cs ts, t.Canonical := by
  unfold withText
  split
  · exact h
  · rw [List.forall_mem_cons]
    exact ⟨trivial, h⟩

/-- What canonical pieces make up may stand next
to each other, and consists of canonical trees. -/
theorem joined_gather
    [Regex.Dialect]
    {ps : List Piece}
    (h : ∀ p ∈ ps, p.Canonical) :
    Joined (gather ps).2 ∧ (∀ t ∈ (gather ps).2.head?, t.isText = false) ∧
      ∀ t ∈ (gather ps).2, t.Canonical := by
  induction ps with
  | nil =>
      exact ⟨joined_nil, by simp [gather], by simp [gather]⟩
  | cons p ps ih =>
      rw [List.forall_mem_cons] at h
      obtain ⟨hjoined, hhead, hcanonical⟩ := ih h.2
      cases p with
      | char c =>
          exact ⟨hjoined, hhead, hcanonical⟩
      | node t =>
          obtain ⟨ht, htext, hcompound⟩ := h.1
          rw [gather]
          refine ⟨(hjoined.withText hhead _).cons hcompound ?_ ?_, ?_, ?_⟩
          · rintro rfl
            cases htext
          · exact fun _ _ => .inl htext
          · rintro _ ⟨⟩
            exact htext
          · rw [List.forall_mem_cons]
            exact ⟨ht, canonical_withText hcanonical _⟩

theorem allCanonical_iff
    [Regex.Dialect]
    {ts : List Tree} :
    AllCanonical ts ↔ ∀ t ∈ ts, t.Canonical := by
  induction ts with
  | nil =>
      simp [AllCanonical]
  | cons t ts ih =>
      rw [AllCanonical, List.forall_mem_cons, ih]

theorem canonical_ofPieces
    [Regex.Dialect]
    {ps : List Piece}
    (h : ∀ p ∈ ps, p.Canonical) :
    (Tree.ofPieces ps).Canonical := by
  obtain ⟨hjoined, hhead, hcanonical⟩ := joined_gather h
  have hts := hjoined.withText hhead (gather ps).1
  have hall := canonical_withText hcanonical (gather ps).1
  rw [Tree.ofPieces, joinPieces]
  generalize withText (gather ps).1 (gather ps).2 = ts at hts hall
  match ts with
  | [] =>
      trivial
  | [t] =>
      exact hall t (by simp)
  | s :: t :: ts =>
      exact ⟨by simp, hts, allCanonical_iff.2 hall⟩

theorem canonical_optionalContent
    [Regex.Dialect]
    {as : List (Marked Tree)}
    (hne : as ≠ [])
    (h : AlternativesCanonical as) :
    (optionalContent as).Canonical := by
  match as, hne with
  | [⟨mark, t⟩], _ =>
      rw [optionalContent]
      split
      · exact h.1
      · exact ⟨by simp, h⟩
  | a :: b :: as, _ =>
      exact ⟨by simp, h⟩

mutual

/-- A sequence consists of canonical pieces. -/
theorem SequenceText.canonical [Regex.Dialect] :
    {s : List Char} → {ps : List Piece} → SequenceText s ps → ∀ p ∈ ps, p.Canonical
  | _, _, .nil => by
      simp
  | _, _, .cons first others => by
      rw [List.forall_mem_cons]
      exact ⟨first.canonical, others.canonical⟩

theorem PieceText.canonical [Regex.Dialect] :
    {s : List Char} → {p : Piece} → PieceText s p → p.Canonical
  | _, _, .plain _ => trivial
  | _, _, .escaped _ => trivial
  | _, _, .optional content => by
      obtain ⟨hne, hcanonical⟩ := content.canonical
      exact ⟨canonical_optionalContent hne hcanonical, rfl, rfl⟩
  | _, _, .choice content =>
      ⟨content.canonical, rfl, rfl⟩
  | _, _, .capture closed accepted => by
      refine ⟨⟨?_, ?_⟩, rfl, rfl⟩
      · rw [String.toList_ofList]
        exact accepted
      · rw [String.toList_ofList]
        exact closed
  | _, _, .slot closed accepted =>
      ⟨wellFormed_of_readSlotBody accepted, rfl, rfl⟩

theorem AlternativeText.canonical [Regex.Dialect] :
    {s : List Char} → {a : Marked Tree} → AlternativeText s a → a.body.Canonical
  | _, _, .unmarked _ content => canonical_ofPieces content.canonical
  | _, _, .marked _ _ content => canonical_ofPieces content.canonical

theorem AlternativesText.canonical [Regex.Dialect] :
    {s : List Char} → {as : List (Marked Tree)} → AlternativesText s as →
      as ≠ [] ∧ AlternativesCanonical as
  | _, _, .single only => ⟨by simp, only.canonical, trivial⟩
  | _, _, .cons first others => ⟨by simp, first.canonical, others.canonical.2⟩

end

end Pattern
end TriggerScript
