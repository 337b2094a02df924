import GrammarAudit.Lexis.CharSet

/-!
# Token patterns

A token is described by a regular expression over sets of characters.  A token
that a grammar spells out literally is preferred, of two tokens with one text,
to one that it describes; and one that has to follow immediately, without
separators before it, to one that need not.
-/

namespace GrammarAudit.Lexis

/-- A regular expression. -/
inductive Pattern
  | empty
  | chars (set : CharSet)
  | seq (first second : Pattern)
  | alt (first second : Pattern)
  | plus (body : Pattern)
deriving DecidableEq, Repr, Inhabited, Hashable

namespace Pattern

/-- The body or nothing. -/
def opt (p : Pattern) : Pattern := .alt p .empty

/-- The body any number of times. -/
def star (p : Pattern) : Pattern := opt (.plus p)

/-- Some patterns one after the other. -/
def all : List Pattern → Pattern
  | [] => .empty
  | [p] => p
  | p :: rest => .seq p (all rest)

/-- One of some patterns. -/
def any : List Pattern → Pattern
  | [] => .empty
  | [p] => p
  | p :: rest => .alt p (any rest)

/-- A text, character by character. -/
def text (s : String) : Pattern := all (s.toList.map fun c => .chars (.single c))

/-- One of the characters of a text. -/
def oneOf (s : String) : Pattern := .chars (.ofText s)

/-- One character outside a set. -/
def noneOf (set : CharSet) : Pattern := .chars set.complement

/-- The body at most `n` times. -/
def upTo : Nat → Pattern → Pattern
  | 0, _ => .empty
  | n + 1, p => opt (.seq p (upTo n p))

/-- The body from `least` to `most` times. -/
def between (least most : Nat) (p : Pattern) : Pattern :=
  .seq (all (List.replicate least p)) (upTo (most - least) p)

end Pattern

/-- A token as a grammar writes it: a pattern, the text if it is spelled out,
and whether it has to follow immediately what stands before it. -/
structure Lexeme where
  pattern : Pattern
  literal : Option String
  immediate : Bool
deriving DecidableEq, Repr, Inhabited, Hashable

namespace Lexeme

/-- How strongly a token is preferred among those that match one text. -/
def weight (l : Lexeme) : Nat :=
  (if l.literal.isSome then 2 else 0) + (if l.immediate then 1 else 0)

end Lexeme

end GrammarAudit.Lexis
