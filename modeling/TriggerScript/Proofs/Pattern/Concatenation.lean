import TriggerScript.Proofs.Pattern.Relocation
import TriggerScript.Proofs.Pattern.Writing
import TriggerScript.Regex.Acceptance

/-!
# One pattern behind another

What the text of one pattern with the text of another behind it is read as. If both can
be read, the parts of the first tree stand in front of those of the second. Otherwise the
text has the fault of the second pattern, further on, or that of the first, unless what
is added behind could still have made up for it.
-/

namespace TriggerScript

namespace Report

/-- The span, further on. -/
def Span.shift
    (k : Nat) (s : Span) : Span :=
  ⟨s.start + k, s.stop + k⟩

def Label.shift
    (k : Nat) (l : Label) : Label :=
  { l with span := l.span.shift k }

/-- The diagnostic with all its labels further on. -/
def Diagnostic.shift
    (k : Nat) (d : Diagnostic) : Diagnostic :=
  { d with labels := d.labels.map (Label.shift k) }

theorem Span.ofRange_shift
    {k start stop : Nat}
    (hstart : start + k ≤ maxOffset)
    (hstop : stop + k ≤ maxOffset) :
    Span.ofRange (start + k) (stop + k) = (Span.ofRange start stop).shift k := by
  rw [ofRange, ofRange, shift, Nat.min_eq_left hstart, Nat.min_eq_left hstop,
    Nat.min_eq_left (Nat.le_of_add_right_le hstart),
    Nat.min_eq_left (Nat.le_of_add_right_le hstop)]

end Report

namespace Pattern

open Report

/-- A fault that is further on has the same explanation with its label further on. -/
theorem Fault.explain_shift
    {f : Fault} {k : Nat}
    (hstart : f.start + k ≤ maxOffset)
    (hstop : f.stop + k ≤ maxOffset) :
    (f.shift k).explain = f.explain.shift k := by
  have hspan := Span.ofRange_shift hstart hstop
  cases f <;>
    simp_all [Fault.shift, Fault.explain, Fault.start, Fault.stop, Nat.add_right_comm,
      Diagnostic.shift, Label.shift, Diagnostic.error, Diagnostic.withMessage,
      Diagnostic.withLabel, Diagnostic.withNote]

theorem compile_error_iff
    [Regex.Dialect]
    {source : String} {d : Diagnostic} :
    compile source = .error d ↔
      ∃ f, parse source.toList = .error f ∧ f.diagnostic source = d := by
  unfold compile
  cases parse source.toList with
  | error fault =>
      simp [Except.mapError]
  | ok t =>
      simp [Except.mapError]

namespace Tree

/-- The trees that stand next to each other in a tree. An empty text is none. -/
def parts : Tree → List Tree
  | .text s => if s = "" then [] else [.text s]
  | .compound ts => ts
  | t => [t]

/-- Trees with others behind them. A text in front of a text is one text with it. -/
def joinParts : List Tree → List Tree → List Tree
  | [], us => us
  | [.text s], .text t :: us => .text (s ++ t) :: us
  | t :: ts, us => t :: joinParts ts us

/-- The tree of the parts of two trees, one behind the other. -/
def append
    (t u : Tree) : Tree :=
  ofList (joinParts t.parts u.parts)

theorem Joined.parts_ofList
    {ts : List Tree}
    (h : Joined ts) :
    (ofList ts).parts = ts := by
  match ts with
  | [] =>
      rfl
  | [t] =>
      have hcompound := h.not_compound t List.mem_cons_self
      have hempty := h.not_empty t List.mem_cons_self
      cases t with
      | text s =>
          exact if_neg fun hs => hempty (congrArg Tree.text hs)
      | compound ts =>
          cases hcompound
      | _ =>
          rfl
  | s :: t :: ts =>
      rfl

theorem joinParts_cons_of_not_isText
    {t : Tree}
    (h : t.isText = false)
    (ts us : List Tree) :
    joinParts (t :: ts) us = t :: joinParts ts us := by
  cases t <;> first | rfl | cases h

theorem Joined.joinParts
    {ts us : List Tree}
    (hts : Joined ts)
    (hus : Joined us) :
    Joined (joinParts ts us) := by
  fun_induction Tree.joinParts ts us with
  | case1 us =>
      exact hus
  | case2 s t us =>
      refine hus.tail.cons rfl ?_ fun u hu => .inr (hus.head_not_isText rfl u hu)
      have hs := hts.not_empty _ List.mem_cons_self
      simpa using fun h => (hs (congrArg Tree.text h)).elim
  | case3 t ts us hne ih =>
      refine (ih hts.tail hus).cons (hts.not_compound t List.mem_cons_self)
        (hts.not_empty t List.mem_cons_self) fun u hu => ?_
      cases htext : t.isText with
      | false =>
          exact .inl rfl
      | true =>
          -- behind a text stands either one of the trees, or the first of the others
          refine .inr ?_
          cases ts with
          | nil =>
              rw [← Bool.not_eq_true]
              intro hu'
              obtain ⟨s, rfl⟩ := exists_of_isText htext
              obtain ⟨s', rfl⟩ := exists_of_isText hu'
              obtain ⟨us', rfl⟩ := List.head?_eq_some_iff.1 hu
              exact hne s s' us' rfl rfl rfl
          | cons t' ts =>
              have ht' := hts.head_not_isText htext t' rfl
              rw [joinParts_cons_of_not_isText ht'] at hu
              cases hu
              exact ht'

theorem flatMap_ownPieces_joinParts
    (ts us : List Tree) :
    (joinParts ts us).flatMap ownPieces =
      ts.flatMap ownPieces ++ us.flatMap ownPieces := by
  fun_induction joinParts ts us with
  | case1 us =>
      rfl
  | case2 s t us =>
      simp [ownPieces]
  | case3 t ts us _ ih =>
      simp [ih]

end Tree

open Pattern.Tree

theorem flatMap_ownPieces_withText
    (cs : List Char) (ts : List Tree) :
    (withText cs ts).flatMap ownPieces = cs.map .char ++ ts.flatMap ownPieces := by
  cases cs <;> simp [withText, ownPieces]

/-- The trees that pieces make up can be taken apart into the pieces again. -/
theorem flatMap_ownPieces_joinPieces
    [Regex.Dialect]
    {ps : List Piece}
    (h : ∀ p ∈ ps, p.Canonical) :
    (joinPieces ps).flatMap ownPieces = ps := by
  rw [joinPieces, flatMap_ownPieces_withText]
  induction ps with
  | nil =>
      rfl
  | cons p ps ih =>
      obtain ⟨hp, hps⟩ := List.forall_mem_cons.1 h
      cases p with
      | char c =>
          exact congrArg (Piece.char c :: ·) (ih hps)
      | node t =>
          rw [gather]
          simp only [List.map_nil, List.nil_append, List.flatMap_cons,
            flatMap_ownPieces_withText, ih hps, ownPieces_of_not_isText hp.2.1,
            List.singleton_append]

theorem joined_joinPieces
    [Regex.Dialect]
    {ps : List Piece}
    (h : ∀ p ∈ ps, p.Canonical) :
    Joined (joinPieces ps) := by
  obtain ⟨hjoined, hhead, -⟩ := joined_gather h
  exact hjoined.withText hhead (gather ps).1

/-- Pieces behind others make up the joined trees of both. -/
theorem joinPieces_append
    [Regex.Dialect]
    {ps qs : List Piece}
    (hps : ∀ p ∈ ps, p.Canonical)
    (hqs : ∀ q ∈ qs, q.Canonical) :
    joinPieces (ps ++ qs) = joinParts (joinPieces ps) (joinPieces qs) := by
  have hjoined := (joined_joinPieces hps).joinParts (joined_joinPieces hqs)
  calc
    joinPieces (ps ++ qs) =
        joinPieces ((joinParts (joinPieces ps) (joinPieces qs)).flatMap ownPieces) := by
      rw [flatMap_ownPieces_joinParts, flatMap_ownPieces_joinPieces hps,
        flatMap_ownPieces_joinPieces hqs]
    _ = joinParts (joinPieces ps) (joinPieces qs) := (gather_flatMap_ownPieces hjoined).1

theorem parts_ofPieces
    [Regex.Dialect]
    {ps : List Piece}
    (h : ∀ p ∈ ps, p.Canonical) :
    (Tree.ofPieces ps).parts = joinPieces ps :=
  (joined_joinPieces h).parts_ofList

/-- Patterns that can be read can be read one behind the other. -/
theorem parse_append
    [Regex.Dialect]
    {p q : List Char} {t u : Tree}
    (hp : parse p = .ok t)
    (hq : parse q = .ok u) :
    parse (p ++ q) = .ok (t.append u) := by
  obtain ⟨ps, hps, rfl⟩ := parse_ok_iff.1 hp
  obtain ⟨qs, hqs, rfl⟩ := parse_ok_iff.1 hq
  refine parse_ok_iff.2 ⟨ps ++ qs, hps.append hqs, ?_⟩
  rw [Tree.append, parts_ofPieces hps.canonical,
    parts_ofPieces hqs.canonical, Tree.ofPieces,
    joinPieces_append hps.canonical hqs.canonical]

/-- A fault of a pattern is one of the whole behind a pattern that can be read. -/
theorem parse_append_of_ok
    [Regex.Dialect]
    {p q : List Char} {t : Tree} {f : Fault}
    (hp : parse p = .ok t)
    (hq : parse q = .error f) :
    parse (p ++ q) = .error (f.shift (Text.byteLength p)) := by
  obtain ⟨ps, hps, -⟩ := parse_ok_iff.1 hp
  exact parse_error_iff.2
    (hps.append_fault ((parse_error_iff.1 hq).shift (Text.byteLength p)))

/-- A fault that does not come from the end of a
pattern stays with more text behind it. -/
theorem parse_append_of_error
    [Regex.Dialect]
    {p : List Char} {f : Fault}
    (hp : parse p = .error f)
    (hend : f.atEnd = false)
    (q : List Char) :
    parse (p ++ q) = .error f :=
  parse_error_iff.2 ((parse_error_iff.1 hp).append q hend)

theorem compile_append_of_ok
    [Regex.Dialect]
    {p q : String} {t u : Tree}
    (hp : compile p = .ok t)
    (hq : compile q = .ok u) :
    compile (p ++ q) = .ok (t.append u) := by
  rw [compile_ok_iff] at hp hq ⊢
  rw [String.toList_append]
  exact parse_append hp hq

/-- Two patterns one behind the other are read as the parts of both. If only the second
has a fault, so has the whole, further on; and if the first has one that no missing text
is to blame for, the whole has the same. -/
theorem compile_append
    [Regex.Dialect]
    (p q : String) :
    (∀ t u, compile p = .ok t → compile q = .ok u →
        compile (p ++ q) = .ok (t.append u)) ∧
      (∀ t d, compile p = .ok t → compile q = .error d →
        Text.byteLength (p ++ q).toList < UInt32.size →
          compile (p ++ q) =
            .error ((d.shift (Text.byteLength p.toList)).withSource (p ++ q))) ∧
      (∀ d, compile p = .error d →
        d.code ∈ [.unmatchedCloser, .invalidCapture, .emptySlot, .invalidModifier] →
          compile (p ++ q) = .error (d.withSource (p ++ q))) := by
  have happend : (p ++ q).toList = p.toList ++ q.toList := String.toList_append
  refine ⟨fun t u hp hq => compile_append_of_ok hp hq, fun t d hp hq hlength => ?_,
    fun d hp hcode => ?_⟩
  · obtain ⟨f, hf, rfl⟩ := compile_error_iff.1 hq
    obtain ⟨hstart, hstop⟩ := (parse_error_iff.1 hf).before nofun
    rw [happend, Text.byteLength_append] at hlength
    have hexplain : (f.shift (Text.byteLength p.toList)).explain =
        f.explain.shift (Text.byteLength p.toList) := by
      refine Fault.explain_shift ?_ ?_ <;> unfold maxOffset <;> omega
    refine compile_error_iff.2 ⟨_, ?_, congrArg (·.withSource (p ++ q)) hexplain⟩
    rw [happend]
    exact parse_append_of_ok (compile_ok_iff.1 hp) hf
  · obtain ⟨f, hf, rfl⟩ := compile_error_iff.1 hp
    refine compile_error_iff.2 ⟨f, ?_, rfl⟩
    rw [happend]
    exact parse_append_of_error hf (f.atEnd_eq_false_iff.2 hcode) q.toList

/-- A text that goes on behind the seam, a bracket
too many behind it, and one in front of it. -/
theorem compile_append_seams :
    compile ("say [the] " ++ "word") =
        .ok (.compound [.text "say ", .optional (.text "the"), .text " word"]) ∧
      compile ("é(a)" ++ "b]") =
        .error ⟨.unmatchedCloser, .error, "unmatched closing `]`", some "é(a)b]",
          [⟨⟨6, 7⟩, "no group to close here", true⟩], []⟩ ∧
      compile ("(1]" ++ "¦a)") =
        .error ⟨.unmatchedCloser, .error, "unmatched closing `]`", some "(1]¦a)",
          [⟨⟨2, 3⟩, "no group to close here", true⟩], []⟩ := by
  refine ⟨?_, ?_, ?_⟩
  · exact (compile_append _ _).1
      (.compound [.text "say ", .optional (.text "the"), .text " "])
      (.text "word") (by cbv) (by cbv)
  · exact (compile_append _ _).2.1 (.compound [.text "é", .choice [⟨0, .text "a"⟩]])
      ⟨.unmatchedCloser, .error, "unmatched closing `]`", some "b]",
        [⟨⟨1, 2⟩, "no group to close here", true⟩], []⟩ (by cbv) (by cbv) (by decide)
  · exact (compile_append _ _).2.2
      ⟨.unmatchedCloser, .error, "unmatched closing `]`", some "(1]",
        [⟨⟨2, 3⟩, "no group to close here", true⟩], []⟩ (by cbv) (by decide)

end Pattern
end TriggerScript
