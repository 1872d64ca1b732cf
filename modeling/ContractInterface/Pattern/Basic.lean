/-
Patterns that strings can be held against. A pattern is its text; the expression that it was read
as follows from the text, so patterns of equal text are equal.
-/
import ContractInterface.Pattern.Matching
import ContractInterface.Pattern.Reading

namespace ContractInterface

structure TextPattern where
  source : String
  expression : Pattern.Expression
  expression_eq : Pattern.Expression.ofText? source = some expression

namespace TextPattern

/-- The pattern of a text, if it is one. -/
def compile? (source : String) : Option TextPattern :=
  match h : Pattern.Expression.ofText? source with
  | some e => some ⟨source, e, h⟩
  | none => none

/-- Whether some part of the text matches. -/
def matchesText (p : TextPattern) (text : String) : Bool := p.expression.matchesText text

theorem eq_of_source_eq {p q : TextPattern} (h : p.source = q.source) : p = q := by
  obtain ⟨s, e, he⟩ := p
  obtain ⟨t, e', he'⟩ := q
  obtain rfl : s = t := h
  obtain rfl : e = e' := Option.some.inj (he.symm.trans he')
  rfl

instance : DecidableEq TextPattern := fun p q =>
  if h : p.source = q.source then isTrue (eq_of_source_eq h)
  else isFalse fun e => h (congrArg source e)

end TextPattern

end ContractInterface
