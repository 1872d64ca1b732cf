/-
Pattern expressions in their simplest form. The functions `ofSet`, `repeated`, `inSequence` and
`oneOf` build an expression from parts that are already simple and drop what changes no match:
repetitions of nothing, sequences in sequences, choices between single characters, and what all
branches of a choice start with.
-/
import ContractInterface.Pattern.Assertion

namespace ContractInterface.Pattern

inductive Expression where
  | empty
  /-- A text of one or more characters. -/
  | literal (text : List Char)
  /-- A set that does not hold exactly one character. -/
  | set (characters : CodePoints)
  | assertion (a : Assertion)
  /-- A group that captures, with its number in the order of opening. -/
  | group (index : Nat) (body : Expression)
  /-- Between `least` and `most` times, without an upper bound if that is absent. -/
  | repetition (body : Expression) (least : Nat) (most : Option Nat) (greedy : Bool)
  | seq (parts : List Expression)
  | choice (branches : List Expression)

namespace Expression

/-! ## Properties -/

mutual

def same : Expression → Expression → Bool
  | .empty, .empty => true
  | .literal s, .literal t => s == t
  | .set s, .set t => s == t
  | .assertion a, .assertion b => a == b
  | .group i d, .group j e => i == j && d.same e
  | .repetition d least most greedy, .repetition e least' most' greedy' =>
    d.same e && least == least' && most == most' && greedy == greedy'
  | .seq ds, .seq es => sameAll ds es
  | .choice ds, .choice es => sameAll ds es
  | _, _ => false

def sameAll : List Expression → List Expression → Bool
  | [], [] => true
  | d :: ds, e :: es => d.same e && sameAll ds es
  | _, _ => false

end

mutual

/-- Whether only the empty text can match. -/
def isVoid : Expression → Bool
  | .empty => true
  | .literal _ => false
  | .set _ => false
  | .assertion _ => true
  | .group _ e => e.isVoid
  | .repetition e _ most _ => most.isSome && e.isVoid
  | .seq es => allVoid es
  | .choice es => allVoid es

def allVoid : List Expression → Bool
  | [] => true
  | e :: es => e.isVoid && allVoid es

end

/-! ## Sets and repetitions -/

/-- The expression of a set. Surrogates are no characters. -/
def ofSet (s : CodePoints) : Expression :=
  match CodePoints.diff s Unicode.surrogates with
  | [(m, n)] => if m = n then .literal [Char.ofNat m] else .set [(m, n)]
  | s => .set s

/-- A repetition. What matches only the empty text is repeated once at most. -/
def repeated (e : Expression) (least : Nat) (most : Option Nat) (greedy : Bool) : Expression :=
  let (least, most) :=
    if e.isVoid then (min least 1, some (min (most.getD 1) 1)) else (least, most)
  if most = some 0 then .empty
  else if least = 1 ∧ most = some 1 then e
  else .repetition e least most greedy

/-! ## Sequences -/

/-- What follows each other in an expression. -/
def parts : Expression → List Expression
  | .empty => []
  | .seq es => es
  | e => [e]

/-- Puts an expression before others; two texts become one. -/
def attach (e : Expression) (es : List Expression) : List Expression :=
  match e, es with
  | .literal s, .literal t :: es => .literal (s ++ t) :: es
  | e, es => e :: es

def inSequence (es : List Expression) : Expression :=
  match (es.flatMap parts).foldr attach [] with
  | [] => .empty
  | [e] => e
  | es => .seq es

/-! ## Choices -/

def branches : Expression → List Expression
  | .choice es => es
  | e => [e]

def character? : Expression → Option Char
  | .literal [c] => some c
  | _ => none

def set? : Expression → Option CodePoints
  | .set s => some s
  | _ => none

def seq? : Expression → Option (List Expression)
  | .seq es => some es
  | _ => none

/-- A choice between branches; characters, and sets, become one set. -/
def merged (es : List Expression) : Expression :=
  match es.flatMap branches with
  | [e] => e
  | es =>
    match es.mapM character?, es.mapM set? with
    | some cs, _ => ofSet (CodePoints.ofRanges (cs.map fun c => (c.toNat, c.toNat)))
    | none, some sets => ofSet (CodePoints.ofRanges sets.flatten)
    | none, none => .choice es

/-- What two lists start with. -/
def sharedStart (ds es : List Expression) : List Expression :=
  ((ds.zip es).takeWhile fun (d, e) => d.same e).map Prod.fst

/-- What all lists start with. -/
def commonStart : List (List Expression) → List Expression
  | [] => []
  | es :: rest => rest.foldl sharedStart es

/-- A choice between branches. What all of them start with stands before the choice. -/
def oneOf (es : List Expression) : Expression :=
  let es := es.flatMap branches
  match es.mapM seq? with
  | none => merged es
  | some lists =>
    let start := commonStart lists
    if start.isEmpty then merged es
    else
      inSequence (start ++ [merged (lists.map fun es => inSequence (es.drop start.length))])

end Expression

end ContractInterface.Pattern
