import GrammarAudit.Automaton.Merge
import GrammarAudit.Language
import GrammarAudit.Lexis.Dfa

/-!
# Parse tables

What a parser needs of a grammar: for each state the actions, the rules'
targets, where its lexer starts and which tokens of the scanner it expects; the
lexer's automaton; and how symbols show.  Symbols are numbered anew: the end of
the text is zero, then come the tokens, the scanner's tokens and the rules in
use, and last the aliases that are no symbols.

* `ParseTable.ofGrammar` makes the table of a grammar.
-/

namespace GrammarAudit.Automaton

open Rules Lexis

/-- A state of a parse table; tokens are looked up by number, rules by their
place after the tokens. -/
structure TableState where
  entries : Array (Option Entry)
  gotos : Array (Option Nat)
  lexer : Nat
  scannerTokens : SymbolSet
deriving Inhabited

/-- A parse table. -/
structure ParseTable where
  states : Array TableState
  kinds : Array NodeKind
  tokenCount : Nat
  /-- For each shape the alias of each child. -/
  aliases : Array (Array (Option Nat))
  lexer : Dfa
  /-- The number of the first token; the tokens follow one another. -/
  firstToken : Nat
  /-- The numbers of the scanner's tokens. -/
  scannerSymbols : Array Nat
deriving Inhabited

namespace ParseTable

/-- The tokens for which one lexer can stand in, whether the text may end, and
the states that use it. -/
structure LexerGroup where
  tokens : SymbolSet
  mayEnd : Bool
  states : List Nat

/-- Two sets of tokens can share a lexer: no token that only one has is
inseparable from one that the other has. -/
def separable (inseparable : Array SymbolSet) (count : Nat) (a b : SymbolSet) : Bool :=
  let apart (s t : SymbolSet) : Bool :=
    (placesIn count (s &&& (s ^^^ t))).all fun i => inseparable.getD i 0 &&& t == 0
  apart a b && apart b a

/-- Puts a state into the first group whose lexer it can share. -/
def addToGroup (inseparable : Array SymbolSet) (count : Nat) (state : Nat) (tokens : SymbolSet)
    (mayEnd : Bool) : List LexerGroup → List LexerGroup
  | [] => [⟨tokens, mayEnd, [state]⟩]
  | g :: rest =>
    if separable inseparable count g.tokens tokens then
      ⟨g.tokens ||| tokens, g.mayEnd || mayEnd, state :: g.states⟩ :: rest
    else g :: addToGroup inseparable count state tokens mayEnd rest

/-- The groups of states that share a lexer. -/
def lexerGroups (n : Numbering) (inseparable : Array SymbolSet) (states : Array LrState) :
    List LexerGroup :=
  states.toList.zipIdx.foldl
    (fun groups (s, i) =>
      let expected := s.expected
      addToGroup inseparable n.tokens i (n.tokensOf expected) (expected.testBit n.endOfText) groups)
    []

/-- The entries of a state; a token read elsewhere cannot be used again where
another token expected here overlaps with it. -/
def limitReuse (n : Numbering) (overlapping : Array SymbolSet) (s : LrState) :
    Array (Option Entry) :=
  let tokens := n.tokensOf s.expected
  s.entries.mapIdx fun c e => e.map fun e =>
    if n.isToken c && overlapping.getD (n.tokenIndex c) 0 &&& tokens != 0 then
      { e with reusable := false }
    else e

/-- The symbols in use, in the order of their new numbers. -/
def symbolsInUse (n : Numbering) (states : Array LrState) : List Nat :=
  let expected := states.foldl (fun all s => all ||| s.expected) 0
  let used (c : Nat) : Bool :=
    if n.isRule c then states.any fun s => (s.gotos.getD (n.ruleIndex c) none).isSome
    else expected.testBit c
  n.endOfText :: (((List.range n.tokens).map n.token).filter used
    ++ (List.range n.scannerTokens).filter used
    ++ ((List.range n.rules).map n.rule).filter used)

/-- The name and visibility that the grammar gives a symbol, the end of the text
apart. -/
def nameOf (g : NormalGrammar) (n : Numbering) (c : Nat) : String × Visibility :=
  if c < n.scannerTokens then
    let name := g.scannerTokens.getD c ""
    (name, .ofName name)
  else if n.isRule c then
    match g.rules[n.ruleIndex c]? with
    | some r => (r.name, r.visibility)
    | none => ("", .hidden)
  else
    match g.tokens[n.tokenIndex c]? with
    | some t => (t.name, t.visibility)
    | none => ("", .hidden)

/-- How a symbol shows. -/
def kindOf (g : NormalGrammar) (n : Numbering) (own : List (Nat × Alias)) (c : Nat) : NodeKind :=
  if c = n.endOfText then ⟨"end", false, true, false⟩
  else
    match own.lookup c with
    | some a => ⟨a.kind, true, a.named, false⟩
    | none =>
      let (name, visibility) := nameOf g n c
      ⟨name, visibility == .named || visibility == .anonymous, visibility == .named, false⟩

/-- A kind is how an alias shows. -/
def isKindOf (a : Alias) (k : NodeKind) : Bool :=
  k.visible && k.named == a.named && k.name == a.kind

/-- Aliases in order: anonymous ones first, each sort by name. -/
def aliasBefore (a b : Alias) : Bool :=
  if a.named == b.named then a.kind ≤ b.kind else !a.named

/-- An entry with the symbols of its reductions renumbered. -/
def renumberEntry (number : Nat → Nat) (e : Entry) : Entry :=
  { e with actions := e.actions.map fun a =>
      match a with
      | .reduce symbol count score shape => .reduce (number symbol) count score shape
      | a => a }

/-- The table of a grammar taken apart. -/
def ofNormal (g : NormalGrammar) : ParseTable :=
  let t := ItemTable.ofNormal g
  let n := t.numbering
  let extras := g.extras.map n.ofSymbol
  let built := (StateTable.ofItems t extras).states
  let x := t.lexicon g (extras.map n.tokenIndex)
  let relations := TokenRelations.ofStates t x built
  let states := addRecovery n relations.recoverable built
  let inUse := symbolsInUse n states
  let own := g.ownAliases.map fun (s, a) => (n.ofSymbol s, a)
  let shownAs := t.productions.toList.flatMap fun p =>
    p.steps.toList.filterMap fun s => s.shownAs.map fun _ => n.ofSymbol s.symbol
  let isHidden (r : Nat) : Bool :=
    let c := n.rule r
    (nameOf g n c).2 != .named && (own.lookup c).isNone && !shownAs.contains c
  let merged := dropUnreached (bypassUnits n isHidden
    (mergeStates n relations.conflicting states))
  let groups := lexerGroups n relations.inseparable merged
  let (lexer, firsts) := Dfa.ofStarts x (groups.map fun l => (placesIn n.tokens l.tokens, l.mayEnd))
  let lexerOf := (groups.zip firsts.toList).foldl
    (fun (of : Array Nat) (l, first) => l.states.foldl (fun of s => of.setIfInBounds s first) of)
    (Array.replicate merged.size 0)
  let overlapping := (Array.range n.tokens).map fun i => relations.those fun j =>
    relations.overlaps.overlaps j i
  let symbols := inUse.toArray
  let tokenCount := inUse.countP fun c => !n.isRule c
  let numbers := inUse.zipIdx.foldl (fun (numbers : Array Nat) (c, i) => numbers.setIfInBounds c i)
    (Array.replicate n.symbols 0)
  let number (c : Nat) : Nat := numbers.getD c 0
  let symbolKinds := symbols.map (kindOf g n own)
  let known (a : Alias) : Option Nat := symbolKinds.findIdx? (isKindOf a)
  let added := ((t.shapes.toList.flatMap fun s => s.aliases.filterMap id).eraseDups.filter
    fun a => (known a).isNone).mergeSort aliasBefore
  let aliasNumber (a : Alias) : Option Nat :=
    (known a).or ((added.findIdx? (· == a)).map (symbols.size + ·))
  { states := merged.mapIdx fun i s =>
      let entries := limitReuse n overlapping s
      { entries := (symbols.extract 0 tokenCount).map fun c =>
          (entries.getD c none).map (renumberEntry number)
        gotos := (symbols.extract tokenCount symbols.size).map fun c =>
          s.gotos.getD (n.ruleIndex c) none
        lexer := lexerOf.getD i 0
        scannerTokens := s.expected % (1 <<< n.scannerTokens) }
    kinds := symbolKinds ++ (added.map fun a => ⟨a.kind, true, a.named, false⟩).toArray
    tokenCount := tokenCount
    aliases := t.shapes.map fun s => (s.aliases.map fun a => a.bind aliasNumber).toArray
    lexer := lexer
    firstToken := number (n.token 0)
    scannerSymbols := (Array.range n.scannerTokens).map number }

/-- The table of a grammar. -/
def ofGrammar (g : Grammar) : ParseTable := ofNormal g.normalize

end ParseTable

end GrammarAudit.Automaton
