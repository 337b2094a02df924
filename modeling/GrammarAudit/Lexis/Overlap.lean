import GrammarAudit.Lexis.Nfa

/-!
# Tokens that can be mistaken for one another

Where two tokens are both expected, one text may match both, or a match of one
may be the beginning of a match of the other.  For each ordered pair of tokens
an `Overlap` records what the first can take away from the second; the lexer may
only be shared between places that expect different tokens if nothing is taken
away.
-/

namespace GrammarAudit.Lexis

/-- What one token can take away from another. -/
structure Overlap where
  /-- It is preferred where a match of it ends, though the other could read
  on. -/
  cutsShort : Bool
  /-- It reads on past a complete match of the other. -/
  readsOn : Bool
  /-- It reads on with a character that could also start what may follow the
  other. -/
  readsOnValidly : Bool
  /-- It is complete where the other still reads separators. -/
  insideSeparators : Bool
  /-- Both match one text, and it is preferred. -/
  sameText : Bool
deriving Repr, Inhabited

namespace Overlap

/-- Nothing is taken away. -/
def none : Overlap := ⟨false, false, false, false, false⟩

/-- What is taken away by either. -/
def merge (a b : Overlap) : Overlap :=
  ⟨a.cutsShort || b.cutsShort, a.readsOn || b.readsOn, a.readsOnValidly || b.readsOnValidly,
    a.insideSeparators || b.insideSeparators, a.sameText || b.sameText⟩

/-- The token can take a valid text away from the other. -/
def conflicts (o : Overlap) : Bool := o.readsOnValidly || o.insideSeparators || o.sameText

/-- The tokens overlap in some way. -/
def overlaps (o : Overlap) : Bool :=
  o.insideSeparators || o.cutsShort || o.sameText || o.readsOn

end Overlap

/-- What two tokens take away from each other, the first one's share first. -/
abbrev MutualOverlap := Overlap × Overlap

/-- Adds to the share of the token `i` of the pair, or of the other one. -/
def MutualOverlap.add (pair : MutualOverlap) (i token : Nat) (o : Overlap) : MutualOverlap :=
  if token = i then (pair.1.merge o, pair.2) else (pair.1, pair.2.merge o)

/-- The tokens of a grammar as their overlaps depend on them: the automaton, the
weight of each token and the characters that may follow each. -/
structure Lexicon where
  nfa : Nfa
  weights : Array Nat
  followChars : Array CharSet

namespace Lexicon

/-- Of two tokens that match one text the first is preferred: it weighs more, or
comes first. -/
def prefers (x : Lexicon) (a b : Nat) : Bool :=
  let u := x.weights.getD a 0
  let v := x.weights.getD b 0
  if u = v then a < b else v < u

/-- Reading on is preferred to completing a token, unless it reads a separator,
or separators are being read and the token has no part in what is read. -/
def prefersReading (x : Lexicon) (t : Transition) (completed : Nat) (inSeparators : Bool) : Bool :=
  !t.separator && !(inSeparators && !(x.nfa.tokensOf t.targets).contains completed)

/-- The token that is completed at some nodes of a pair, and what that takes
away. -/
def completions (x : Lexicon) (i : Nat) (within : Bool) :
    List Nat → Option Nat → MutualOverlap → Option Nat × MutualOverlap
  | [], best, pair => (best, pair)
  | token :: rest, best, pair =>
    if within then (best, pair.add i token { Overlap.none with insideSeparators := true })
    else
      match best with
      | none => completions x i within rest (some token) pair
      | some other =>
        if token = other then completions x i within rest best pair
        else
          let preferred := if x.prefers other token then other else token
          completions x i within rest (some preferred)
            (pair.add i preferred { Overlap.none with sameText := true })

/-- What a transition of a pair takes away when a token is complete. -/
def readingOn (x : Lexicon) (i j : Nat) (within : Bool) (best : Option Nat) (pair : MutualOverlap)
    (t : Transition) : MutualOverlap :=
  match best with
  | none => pair
  | some completed =>
    let reading := x.nfa.tokensOf t.targets
    if reading.contains completed then pair
    else
      match reading with
      | [] => pair
      | token :: _ =>
        if x.prefersReading t completed within then
          let other := if token = i then j else i
          let validly := t.chars.meets (x.followChars.getD other .empty)
          pair.add i token { Overlap.none with readsOn := true, readsOnValidly := validly }
        else pair.add i completed { Overlap.none with cutsShort := true }

/-- Follows the automaton from pairs of nodes of the tokens `i` and `j`, as long
as both are alive; the fuel bounds the number of node sets looked at. -/
def explore (x : Lexicon) (i j : Nat) :
    Nat → List (List Nat) → List (List Nat) → MutualOverlap → MutualOverlap
  | 0, _, _, pair => pair
  | _, [], _, pair => pair
  | fuel + 1, ns :: pending, seen, pair =>
    if (x.nfa.tokensOf ns).length < 2 then explore x i j fuel pending seen pair
    else
      let closed := x.nfa.closure ns
      let within := x.nfa.readsSeparator closed
      let (best, pair) := x.completions i within (x.nfa.completed closed) none pair
      let ts := x.nfa.transitions closed
      let pair := ts.foldl (x.readingOn i j within best) pair
      let (pending, seen) := ts.foldl
        (fun ((pending, seen) : List (List Nat) × List (List Nat)) t =>
          if t.targets ∈ seen then (pending, seen)
          else (t.targets :: pending, t.targets :: seen))
        (pending, seen)
      explore x i j fuel pending seen pair

/-- The most node sets that are looked at for one pair of tokens. -/
def exploreFuel : Nat := 100000

/-- What two tokens take away from each other. -/
def mutualOverlap (x : Lexicon) (i j : Nat) : MutualOverlap :=
  x.explore i j exploreFuel [[x.nfa.start i, x.nfa.start j]] [] (.none, .none)

end Lexicon

/-- What every token takes away from every other. -/
structure OverlapTable where
  rows : Array (Array Overlap)

namespace OverlapTable

/-- What the token `i` takes away from the token `j`. -/
def get (t : OverlapTable) (i j : Nat) : Overlap := (t.rows.getD i #[]).getD j .none

/-- The overlaps of all pairs of tokens. -/
def ofLexicon (x : Lexicon) : OverlapTable :=
  let count := x.weights.size
  let halves := (Array.range count).map fun i => (Array.range i).map fun j => x.mutualOverlap i j
  let half (i j : Nat) : MutualOverlap := (halves.getD i #[]).getD j (.none, .none)
  ⟨(Array.range count).map fun i => (Array.range count).map fun j =>
    if j < i then (half i j).1 else if i < j then (half j i).2 else .none⟩

/-- The token `i` can take a valid text away from `j`. -/
def conflicts (t : OverlapTable) (i j : Nat) : Bool := (t.get i j).conflicts

/-- The tokens overlap, with a share for `i`. -/
def overlaps (t : OverlapTable) (i j : Nat) : Bool := (t.get i j).overlaps

/-- The token `i` reads on past a match of `j` or completes inside its
separators, and the other way round not the latter. -/
def outlasts (t : OverlapTable) (i j : Nat) : Bool :=
  let o := t.get i j
  (o.readsOnValidly || o.insideSeparators) && !(t.get j i).insideSeparators

end OverlapTable

end GrammarAudit.Lexis
