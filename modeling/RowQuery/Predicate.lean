import RowQuery.Operand
import RowQuery.Operator

/-!
Conditions on rows: comparisons of columns, joined by "and", "or" and "not". The constructors
`Predicate.all`, `Predicate.any` and `Predicate.negate`, and the operators `&&&`, `|||` and `~~~` made
of them, keep a condition flat: no conjunction right inside a conjunction, no disjunction right inside
a disjunction, no negation right inside a negation.
-/

namespace RowQuery

/-- A comparison of one column. -/
structure Lookup where
  /-- The column, as the store names it. -/
  path : String
  comparison : Comparison
  operand : Operand
deriving DecidableEq, Repr

/-- A condition on rows. -/
inductive Predicate where
  | lookup (l : Lookup)
  /-- Every child holds; with no child this is true. -/
  | and (children : List Predicate)
  /-- Some child holds; with no child this is false. -/
  | or (children : List Predicate)
  | not (child : Predicate)
deriving Inhabited, Repr

namespace Predicate

/-- What a condition gives to a conjunction that it becomes a part of. -/
def conjuncts : Predicate → List Predicate
  | and children => children
  | p => [p]

/-- What a condition gives to a disjunction that it becomes a part of. -/
def disjuncts : Predicate → List Predicate
  | or children => children
  | p => [p]

/-- The condition that all of the given ones hold. -/
def all (ps : List Predicate) : Predicate := and (ps.flatMap conjuncts)

/-- The condition that some of the given ones holds. -/
def any (ps : List Predicate) : Predicate := or (ps.flatMap disjuncts)

/-- The condition that the given one does not hold. -/
def negate : Predicate → Predicate
  | not p => p
  | p => not p

/-- The condition that both hold. -/
instance : AndOp Predicate := ⟨fun p q => all [p, q]⟩

/-- The condition that one of the two holds. -/
instance : OrOp Predicate := ⟨fun p q => any [p, q]⟩

instance : Complement Predicate := ⟨negate⟩

/-- Whether the condition is the empty conjunction. -/
def alwaysTrue : Predicate → Bool
  | and [] => true
  | _ => false

/-- Whether the condition is the empty disjunction. -/
def alwaysFalse : Predicate → Bool
  | or [] => true
  | _ => false

mutual

/-- The comparisons of a condition from left to right. -/
def lookups : Predicate → List Lookup
  | lookup l => [l]
  | and children => lookupsOf children
  | or children => lookupsOf children
  | not child => lookups child

/-- The comparisons of a list of conditions. -/
def lookupsOf : List Predicate → List Lookup
  | [] => []
  | p :: rest => lookups p ++ lookupsOf rest

end

/-- Whether the condition stands in brackets as a part of another one. -/
def needsBrackets : Predicate → Bool
  | and children => 1 < children.length
  | or children => 1 < children.length
  | _ => false

/-- A text in brackets, if they are needed. -/
def bracketed (needed : Bool) (text : List Char) : List Char :=
  if needed then '(' :: (text ++ [')']) else text

mutual

/-- The condition in text. -/
def write : Predicate → List Char
  | lookup l => l.path.toList ++ ' ' :: l.comparison.name.toList ++ ' ' :: l.operand.write
  | and [] => ['T', 'R', 'U', 'E']
  | or [] => ['F', 'A', 'L', 'S', 'E']
  | and (p :: ps) => bracketed p.needsBrackets (write p) ++ writeRest [' ', 'A', 'N', 'D', ' '] ps
  | or (p :: ps) => bracketed p.needsBrackets (write p) ++ writeRest [' ', 'O', 'R', ' '] ps
  | not p => ['N', 'O', 'T', ' ', '('] ++ write p ++ [')']

/-- The parts of a condition that follow its first one, each behind the word that joins them. -/
def writeRest (joint : List Char) : List Predicate → List Char
  | [] => []
  | p :: ps => joint ++ bracketed p.needsBrackets (write p) ++ writeRest joint ps

end

/-- The condition in text, as a string. -/
def text (p : Predicate) : String := String.ofList p.write

mutual

/-- The condition as JSON: an object with one member, named for the kind of condition. -/
def toJson : Predicate → Json
  | lookup l =>
    .object [("lookup", .object
      [("path", .string l.path), ("op", .string l.comparison.name), ("operand", l.operand.toJson)])]
  | and children => .object [("and", .array (toJsons children))]
  | or children => .object [("or", .array (toJsons children))]
  | not p => .object [("not", toJson p)]

/-- A list of conditions as JSON. -/
def toJsons : List Predicate → List Json
  | [] => []
  | p :: ps => toJson p :: toJsons ps

end

end Predicate

end RowQuery
