/-
Matching by marks. The sets of an expression, with repetitions written out, carry marks: a marked
set is one that can have read the character before this place. A character moves the marks on, so
all ways to match are followed at once.
-/
import ContractInterface.Pattern.Expression

namespace ContractInterface.Pattern

/-! ## Marked expressions -/

inductive Marked where
  | empty
  | set (characters : CodePoints) (mark : Bool)
  | assertion (a : Assertion)
  | seq (first second : Marked)
  | choice (first second : Marked)
  /-- Any number of times. -/
  | star (body : Marked)

namespace Marked

/-- So many copies in sequence, nested as little as can be. -/
def copies (m : Marked) (n : Nat) : Marked :=
  if n = 0 then .empty
  else if n = 1 then m
  else .seq (m.copies (n / 2)) (m.copies (n - n / 2))
termination_by n
decreasing_by all_goals omega

/-- A repetition written out. -/
def repeated (m : Marked) (least : Nat) (most : Option Nat) : Marked :=
  match most with
  | none => .seq (m.copies least) (.star m)
  | some most => .seq (m.copies least) ((choice m .empty).copies (most - least))

/-- Characters one after the other. -/
def ofText (text : List Char) : Marked :=
  text.foldr (fun c m => .seq (.set (CodePoints.single c.toNat) false) m) .empty

mutual

/-- The expression without a mark. -/
def ofExpression : Expression → Marked
  | .empty => .empty
  | .literal text => ofText text
  | .set s => .set s false
  | .assertion a => .assertion a
  | .group _ e => ofExpression e
  | .repetition e least most _ => (ofExpression e).repeated least most
  | .seq es => sequenceOf es
  | .choice es => choiceOf es

def sequenceOf : List Expression → Marked
  | [] => .empty
  | e :: es => .seq (ofExpression e) (sequenceOf es)

/-- A choice without branches is an empty set. -/
def choiceOf : List Expression → Marked
  | [] => .set [] false
  | e :: es => .choice (ofExpression e) (choiceOf es)

end

/-! ## Moving marks -/

/-- Whether the end can be reached without reading, from the start and from a mark, in a place
between two characters. -/
def ends (before after : Option Char) : Marked → Bool × Bool
  | .empty => (true, false)
  | .set _ mark => (false, mark)
  | .assertion a => (a.holds before after, false)
  | .seq p q =>
    let (pStart, pMark) := p.ends before after
    let (qStart, qMark) := q.ends before after
    (pStart && qStart, qMark || (pMark && qStart))
  | .choice p q =>
    let (pStart, pMark) := p.ends before after
    let (qStart, qMark) := q.ends before after
    (pStart || qStart, pMark || qMark)
  | .star p => (true, (p.ends before after).2)

/-- The marks after a character that stands behind `before`, and whether the end could be reached
before it. `entered` says whether matching may also start here. -/
def step (before : Option Char) (c : Char) (entered : Bool) : Marked → Marked × Bool
  | .empty => (.empty, entered)
  | .set s mark => (.set s (entered && s.contains c.toNat), mark)
  | .assertion a => (.assertion a, entered && a.holds before (some c))
  | .seq p q =>
    let (p, pEnd) := p.step before c entered
    let (q, qEnd) := q.step before c pEnd
    (.seq p q, qEnd)
  | .choice p q =>
    let (p, pEnd) := p.step before c entered
    let (q, qEnd) := q.step before c entered
    (.choice p q, pEnd || qEnd)
  | .star p =>
    let entered := entered || (p.ends before (some c)).2
    (.star (p.step before c entered).1, entered)

/-- Whether the end is reached somewhere in a text that stands behind `before`, by a match that
starts at a mark or in any place of the text. -/
def search (m : Marked) (before : Option Char) : List Char → Bool
  | [] =>
    let (start, mark) := m.ends before none
    start || mark
  | c :: rest =>
    let (next, done) := m.step before c true
    done || next.search (some c) rest

end Marked

/-- Whether some part of the text matches. -/
def Expression.matchesText (e : Expression) (text : String) : Bool :=
  (Marked.ofExpression e).search none text.toList

end ContractInterface.Pattern
