import GrammarAudit.Automaton.States
import GrammarAudit.Lexis.Overlap

/-!
# Tokens in the states

Which tokens can follow one another, which are expected together, and which can
be told apart well enough to look for them where the text fits nowhere.

* `ItemTable.lexicon` is what the overlaps of the tokens depend on.
* `TokenRelations.ofStates` collects what the later steps need to know about the
  tokens.
* `StateTable.addRecovery` fills the state for text that fits nowhere.
-/

namespace GrammarAudit.Automaton

open Rules Lexis

/-- The tokens of the grammar among the symbols of a set, as a set of their
places. -/
def Numbering.tokensOf (n : Numbering) (s : SymbolSet) : SymbolSet :=
  (s >>> (n.scannerTokens + 1)) % (1 <<< n.tokens)

/-- The places in a set of places below `count`, in order. -/
def placesIn (count : Nat) (s : SymbolSet) : List Nat := (List.range count).filter s.testBit

/-- For each token the tokens that can follow it; extras can stand anywhere. -/
def ItemTable.followSets (t : ItemTable) (extras : List Nat) : Array SymbolSet := Id.run do
  let n := t.numbering
  let first := t.firstSets
  let last := t.lastSets
  let mut sets : Array SymbolSet := Array.replicate n.tokens 0
  for (_, codes) in t.spelled do
    for h : i in [1:codes.size] do
      let next := n.tokensOf (first.getD codes[i] 0)
      for place in placesIn n.tokens (n.tokensOf (last.getD (codes.getD (i - 1) 0) 0)) do
        sets := sets.modify place (· ||| next)
  for place in extras do
    sets := sets.map (· ||| SymbolSet.single place)
    sets := sets.setIfInBounds place ((1 <<< n.tokens) - 1)
  return sets

/-- The tokens of a grammar as their overlaps depend on them. -/
def ItemTable.lexicon (t : ItemTable) (g : NormalGrammar) (extras : List Nat) : Lexicon :=
  let lexemes := g.tokens.map TokenInfo.lexeme
  let nfa := Nfa.ofLexemes g.separators lexemes
  let starts := (Array.range lexemes.length).map nfa.firstChars
  { nfa
    weights := (lexemes.map Lexeme.weight).toArray
    followChars := (t.followSets extras).map fun s =>
      (placesIn lexemes.length s).foldl (fun chars i => chars ∪ starts.getD i .empty) .empty }

/-- The symbols that a state has entries for. -/
def LrState.expected (s : LrState) : SymbolSet :=
  s.entries.size.fold (fun c _ set =>
    if (s.entries.getD c none).isSome then set ||| SymbolSet.single c else set) 0

/-- The overlaps of the tokens, and for each token the tokens that are expected
with it somewhere. -/
structure TokenRelations where
  lexicon : Lexicon
  overlaps : OverlapTable
  together : Array SymbolSet

namespace TokenRelations

/-- Collects what holds for the tokens in some states. -/
def ofStates (t : ItemTable) (x : Lexicon) (states : Array LrState) : TokenRelations :=
  let n := t.numbering
  let sets := states.map fun s => n.tokensOf s.expected
  { lexicon := x
    overlaps := .ofLexicon x
    together := (Array.range n.tokens).map fun i =>
      sets.foldl (fun all s => if s.testBit i then all ||| s else all) 0 }

/-- The count of tokens. -/
def count (x : TokenRelations) : Nat := x.lexicon.weights.size

/-- Two tokens are expected together in some state. -/
def meet (x : TokenRelations) (i j : Nat) : Bool := (x.together.getD i 0).testBit j

/-- The tokens that satisfy a condition, as a set of places. -/
def those (x : TokenRelations) (keep : Nat → Bool) : SymbolSet :=
  x.count.fold (fun j _ set => if keep j then set ||| SymbolSet.single j else set) 0

/-- For each token the tokens that it can take a valid text away from. -/
def conflicting (x : TokenRelations) : Array SymbolSet :=
  (Array.range x.count).map fun i => x.those (x.overlaps.conflicts i)

/-- For each token the tokens that may not share a lexer with it where only one
of both is expected. -/
def inseparable (x : TokenRelations) : Array SymbolSet :=
  (Array.range x.count).map fun i => x.those fun j =>
    x.overlaps.conflicts i j || (x.overlaps.get i j).cutsShort
      || (!x.meet i j && (x.overlaps.overlaps j i || x.overlaps.overlaps i j))

/-- The tokens that outlast no token which they are never expected with. -/
def unambiguous (x : TokenRelations) : List Nat :=
  (List.range x.count).filter fun i =>
    (List.range x.count).all fun j => i == j || x.meet i j || !x.overlaps.outlasts i j

/-- The tokens that are looked for where the text fits nowhere: the unambiguous
ones, and those that take no text away from an unambiguous one which they are
never expected with. -/
def recoverable (x : TokenRelations) : List Nat :=
  let free := x.unambiguous
  (List.range x.count).filter fun i =>
    free.contains i || free.all fun j => x.meet i j || !x.overlaps.conflicts i j

end TokenRelations

/-- The entry of a token in the state for text that fits nowhere. -/
def recoveryEntry : Entry := ⟨[.recover], false⟩

/-- Fills the state for text that fits nowhere: recoverable tokens, all tokens
of the scanner and the end of the text lead back to some other state. -/
def addRecovery (n : Numbering) (recoverable : List Nat) (states : Array LrState) :
    Array LrState :=
  states.modify 0 fun s =>
    let own := (recoverable.map n.token).foldl
      (fun (entries : Array (Option Entry)) c =>
        if (entries.getD c none).isSome then entries
        else entries.setIfInBounds c (some recoveryEntry)) s.entries
    let all := (List.range (n.scannerTokens + 1)).foldl
      (fun (entries : Array (Option Entry)) c => entries.setIfInBounds c (some recoveryEntry)) own
    { s with entries := all }

end GrammarAudit.Automaton
