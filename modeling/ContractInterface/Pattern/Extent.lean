/-
The extent of the automata of an expression, of one that reads the octets of a text forward and of
one that reads them backward. Neither automaton is kept: its extent grows as it is built from the
parts of the expression, and building stops where the extent passes a limit.
-/
import Std.Data.HashMap
import ContractInterface.Pattern.Expression
import ContractInterface.Pattern.Octets

namespace ContractInterface.Pattern

/-! ## Extent -/

/-- How large an automaton is: the number of its states, and the octets that they hold besides. -/
structure Extent where
  states : Nat
  extra : Nat

namespace Extent

def zero : Extent := ⟨0, 0⟩

def add (x y : Extent) : Extent := ⟨x.states + y.states, x.extra + y.extra⟩

def octets (x : Extent) : Nat := 32 * x.states + x.extra

def limit : Nat := 10485760

/-- One state with so many links. -/
def fork (links : Nat) : Extent := ⟨1, 4 * links⟩

/-- One state with so many transitions. A single one takes no room besides. -/
def step (transitions : Nat) : Extent := ⟨1, if transitions ≤ 1 then 0 else 8 * transitions⟩

end Extent

/-- A step in building an automaton; there is none beyond the limit. -/
abbrev Build := StateT Extent Option

def grow (states extra : Nat) : Build Unit := fun x =>
  let x := x.add ⟨states, extra⟩
  if x.octets ≤ Extent.limit then some ((), x) else none

/-- How a part of an automaton ends. Only a fork takes room for the link to what follows. -/
inductive End where
  | plain
  | fork

def End.link : End → Build Unit
  | .plain => grow 0 0
  | .fork => grow 0 4

/-! ## Texts -/

/-- The extent of a tree of words, none of which is longer than `depth`. Words that follow each
other in the list without an empty word between them share their states. -/
def wordTree : (depth : Nat) → List (List UInt8) → Extent
  | 0, _ => .zero
  | depth + 1, words =>
    let ends := words.countP List.isEmpty - ((words.takeWhile List.isEmpty).length - 1)
    let chunks := (words.splitBy fun v w => v.isEmpty == w.isEmpty).filter fun chunk =>
      chunk.any (!·.isEmpty)
    let grown := chunks.map fun chunk =>
      let heads := (chunk.filterMap List.head?).eraseDups
      let below := heads.map fun head =>
        let tails := (chunk.filter fun word => word.head? == some head).map List.tail
        if tails.all List.isEmpty then Extent.zero else wordTree depth tails
      below.foldl Extent.add (.step heads.length)
    grown.foldl Extent.add (.fork (chunks.length + ends))

/-! ## Sets -/

/-- States of a set that are shared: each in its slot under a key that says what it does. A slot
holds the last state that was put there. -/
abbrev Shared := Std.HashMap Nat (List Nat × Nat)

/-- A number that spreads keys over the slots. -/
def fingerprint (key : List Nat) : UInt64 :=
  key.foldl (fun h n => (h ^^^ n.toUInt64) * 1099511628211) 14695981039346656037

/-- The state with a key, a new one if its slot holds no such state. -/
def sharedState (slots : Nat) (key : List Nat) (extra : Nat) : StateT Shared Build Nat := do
  let slot := (fingerprint key).toNat % slots
  match (← get)[slot]? with
  | some (other, state) => if other = key then return state
  | none => pure ()
  let state := (← getThe Extent).states
  grow 1 extra
  modify (·.insert slot (key, state))
  return state

/-- The state that reads one of the runs, none of which is longer than `depth`, and goes on to
`target`. -/
def runsState (target : Nat) : (depth : Nat) → List OctetRun → StateT Shared Build Nat
  | 0, _ => return target
  | depth + 1, runs => do
    if runs.all List.isEmpty then return target
    let transitions ← (runs.splitBy fun r q => r.head? == q.head?).mapM fun group => do
      let next ← runsState target depth (group.map List.tail)
      return (group.filterMap List.head?).head?.toList.flatMap fun (low, high) => [low, high, next]
    sharedState 10000 transitions.flatten (8 * transitions.length)

/-- The state that reads a run backward and goes on to `target`. -/
def backwardState (target : Nat) (run : OctetRun) : StateT Shared Build Nat :=
  run.foldlM (fun next (low, high) => sharedState 1000 [next, low, high] 0) target

/-! ## Expressions -/

inductive Direction where
  | forward
  | backward

/-- The edge of the text where reading in a direction starts. -/
def Direction.edge : Direction → Assertion
  | .forward => .textStart
  | .backward => .textEnd

/-- A set: the ranges of ASCII in one state, others by their octets. -/
def buildSet (d : Direction) (s : CodePoints) : Build End := do
  if s.isAscii then
    grow 2 (8 * s.length)
  else
    let runs := setRuns s
    match d with
    | .forward =>
      let target := (← get).states
      grow 1 0
      let _ ← (runsState target 4 runs).run ∅
    | .backward =>
      let target := (← get).states + 1
      grow 2 0
      let _ ← (runs.forM fun run => do
        let _ ← backwardState target run
        grow 0 4).run ∅
  return .plain

/-- So many copies after `last`. -/
def buildCopies (copy : Build End) : (n : Nat) → (last : End) → Build End
  | 0, last => return last
  | n + 1, last => do
    last.link
    buildCopies copy n (← copy)

def buildExactly (copy : Build End) : (n : Nat) → Build End
  | 0 => do
    grow 1 0
    return .plain
  | n + 1 => do buildCopies copy n (← copy)

/-- So many copies after `last` that may be left out, all or from one on. -/
def buildOptional (copy : Build End) : (n : Nat) → (last : End) → Build End
  | 0, last => return last
  | n + 1, last => do
    grow 1 8
    last.link
    buildOptional copy n (← copy)

namespace Expression

mutual

/-- The number of characters in the shortest match, unless a set that must be matched is empty. -/
def shortest? : Expression → Option Nat
  | .empty => some 0
  | .literal text => some text.length
  | .set s => if s.isEmpty then none else some 1
  | .assertion _ => some 0
  | .group _ e => e.shortest?
  | .repetition e least _ _ => e.shortest?.map (· * least)
  | .seq es => (shortestOf es).map List.sum
  | .choice es => (shortestOf es).bind List.min?

def shortestOf : List Expression → Option (List Nat)
  | [] => some []
  | e :: es => do return (← e.shortest?) :: (← shortestOf es)

end

mutual

/-- Whether every match starts at the edge of the text, as it is met in a direction. -/
def requiresEdge (d : Direction) : Expression → Bool
  | .assertion a => a == d.edge
  | .group _ e => e.requiresEdge d
  | .repetition e least _ _ => 0 < least && e.requiresEdge d
  | .seq es => someRequiresEdge d es
  | .choice es => allRequireEdge d es
  | _ => false

/-- The parts up to the first that can match more than the empty text. -/
def someRequiresEdge (d : Direction) : List Expression → Bool
  | [] => false
  | e :: es =>
    match d with
    | .forward => e.requiresEdge d || (e.isVoid && someRequiresEdge d es)
    | .backward => someRequiresEdge d es || (allVoid es && e.requiresEdge d)

def allRequireEdge (d : Direction) : List Expression → Bool
  | [] => true
  | e :: es => e.requiresEdge d && allRequireEdge d es

end

def text? : Expression → Option (List Char)
  | .literal text => some text
  | _ => none

mutual

/-- Builds what reads an expression. -/
def build (d : Direction) : Expression → Build End
  | .empty => do
    grow 1 0
    return .plain
  | .literal text => do
    grow (textOctets text).length 0
    return .plain
  | .set s => buildSet d s
  | .assertion _ => do
    grow 1 0
    return .plain
  | .group _ e =>
    match d with
    | .forward => do
      grow 1 0
      (← e.build d).link
      grow 1 0
      return .plain
    | .backward => e.build d
  | .repetition e least most _ =>
    match least, most with
    | 0, some 1 => do
      grow 1 8
      (← e.build d).link
      grow 1 0
      return .plain
    | 0, none =>
      if e.shortest?.any (0 < ·) then do
        grow 1 4
        (← e.build d).link
        return .fork
      else do
        (← e.build d).link
        -- one fork goes back and on, another in front goes in or past
        grow 2 16
        grow 1 0
        return .plain
    | least, none => do
      let last ← buildExactly (e.build d) least
      grow 1 4
      last.link
      return .fork
    | least, some most =>
      if least = most then buildExactly (e.build d) least
      else do
        let last ← buildExactly (e.build d) least
        grow 1 0
        (← buildOptional (e.build d) (most - least) last).link
        return .plain
  | .seq es => buildAll d es
  | .choice es =>
    match es.mapM text? with
    | some texts => do
      let words := texts.map textOctets
      let words := match d with
        | .forward => words
        | .backward => words.map List.reverse
      let tree := wordTree (words.foldl (fun n word => max n word.length) 0) words
      grow 1 0
      grow tree.states tree.extra
      return .plain
    | none => do
      buildBranches d 0 es
      return .plain

/-- Builds parts one after the other, from the side where reading starts. -/
def buildAll (d : Direction) : List Expression → Build End
  | [] => do
    grow 1 0
    return .plain
  | [e] => e.build d
  | e :: es =>
    match d with
    | .forward => do
      (← e.build d).link
      buildAll d es
    | .backward => do
      (← buildAll d es).link
      e.build d

/-- Builds branches; the second one is followed by the states where all of them start and end. -/
def buildBranches (d : Direction) (index : Nat) : List Expression → Build Unit
  | [] => grow 0 0
  | e :: es => do
    (← e.build d).link
    grow (if index = 1 then 2 else 0) 4
    buildBranches d (index + 1) es

end

/-- The automaton of a direction. Unless a match must start at the edge it starts in any place. -/
def automaton (d : Direction) (e : Expression) : Build Unit := do
  if e.requiresEdge d then grow 1 0 else grow 3 16
  -- the whole match is a group, too
  (← (Expression.group 0 e).build d).link
  grow 1 0

/-- Whether the automata of both directions keep to the limit. -/
def fits (e : Expression) : Bool :=
  ((e.automaton .forward).run .zero).isSome && ((e.automaton .backward).run .zero).isSome

end Expression

end ContractInterface.Pattern
