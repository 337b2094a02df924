import GrammarAudit.Parsing.Subtree

/-!
# Reading tokens

A reader moves over the text and keeps where the token starts and ends.  The
scanner of a language and the lexer of a table are both run on readers; where
neither finds a token, characters are skipped until the lexer finds one again.

* `Reader.advance` reads or skips a character.
* `runLexer` runs the lexer of a table.
* `readToken` reads the next token in a state.
-/

namespace GrammarAudit.Parsing

open Automaton Lexis

/-- A reader of a text: where it is, where the token starts and, once that is
known, where it ends. -/
structure Reader where
  text : Array Char
  place : Extent
  start : Extent
  stop : Option Extent
deriving Inhabited

namespace Reader

/-- The reader of a text at a place. -/
def ofPlace (text : Array Char) (place : Extent) : Reader := ⟨text, place, place, none⟩

/-- The next character, if the text goes on. -/
def next? (r : Reader) : Option Char := r.text[r.place.chars]?

/-- The text goes no further. -/
def atEnd (r : Reader) : Bool := r.next?.isNone

/-- Reads the next character; a skipped one stands before the token. -/
def advance (skip : Bool) (r : Reader) : Reader :=
  match r.next? with
  | none => r
  | some c =>
    let place := r.place + .ofChar c
    { r with place := place, start := if skip then place else r.start }

/-- Ends the token where the reader is. -/
def markEnd (r : Reader) : Reader := { r with stop := some r.place }

/-- Starts a token where the reader is; a mark of the byte order at the start of
the text is skipped. -/
def begin (r : Reader) : Reader :=
  let r := { r with start := r.place, stop := none }
  if r.place.bytes = 0 && r.next? == some (Char.ofNat 0xFEFF) then r.advance true else r

/-- Where the token ends. -/
def tokenEnd (r : Reader) : Extent := r.stop.getD r.place

/-- Where the token starts; never after its end. -/
def tokenStart (r : Reader) : Extent :=
  if r.tokenEnd.bytes < r.start.bytes then r.tokenEnd else r.start

/-- Reads or skips characters as long as they satisfy a condition; the fuel
bounds their number. -/
def advanceWhile (keep : Char → Bool) (skip : Bool) : Nat → Reader → Reader
  | 0, r => r
  | fuel + 1, r =>
    match r.next? with
    | some c => if keep c then advanceWhile keep skip fuel (r.advance skip) else r
    | none => r

/-- How many characters are left. -/
def remaining (r : Reader) : Nat := r.text.size - r.place.chars

end Reader

/-- A scanner looks for one of its tokens, of those that are expected, where a
reader is. -/
abbrev Scanner := (Nat → Bool) → Reader → Option (Nat × Reader)

/-- Runs the lexer of a table from a state: the token that is complete last, and
the reader where it stops.  The fuel bounds the steps. -/
def runLexer (lexer : Dfa) : Nat → Nat → Option Completed → Reader → Option Completed × Reader
  | 0, _, found, r => (found, r)
  | fuel + 1, state, found, r =>
    let s := lexer.states.getD state default
    let (found, r) :=
      match s.completed with
      | some c => (some c, r.markEnd)
      | none => (found, r)
    match r.next?, s.atEnd with
    | none, some target => runLexer lexer fuel target found r
    | none, none => (found, r)
    | some c, _ =>
      match lexer.next state c.toNat with
      | some t => runLexer lexer fuel t.target found (r.advance t.skip)
      | none => (found, r)

/-- A table with a scanner and a text to parse. -/
structure Input where
  table : ParseTable
  scanner : Scanner
  text : Array Char

namespace Input

/-- The state of a number. -/
def state (x : Input) (number : Nat) : TableState := x.table.states.getD number default

/-- The entry of a symbol in a state. -/
def entry? (x : Input) (state : Nat) : Symbol → Option Entry
  | .kind n => (x.state state).entries.getD n none
  | _ => none

/-- The actions for a symbol in a state. -/
def actions (x : Input) (state : Nat) (s : Symbol) : List Action :=
  ((x.entry? state s).map Entry.actions).getD []

/-- The state that a symbol leads to; zero if it leads nowhere. -/
def target (x : Input) (state : Nat) (s : Symbol) : Nat :=
  match s with
  | .kind n =>
    if n < x.table.tokenCount then
      match (x.actions state s).getLast? with
      | some (.shift next _) => next
      | some .shiftExtra => state
      | _ => 0
    else ((x.state state).gotos.getD (n - x.table.tokenCount) none).getD 0
  | _ => 0

/-- The first action for a symbol is a reduction. -/
def reducesFirst (x : Input) (state : Nat) (s : Symbol) : Bool :=
  match x.actions state s with
  | .reduce .. :: _ => true
  | _ => false

/-- A symbol is expected in a state. -/
def expects (x : Input) (state : Nat) (s : Symbol) : Bool :=
  match s with
  | .kind n =>
    if n < x.table.tokenCount then (x.entry? state s).isSome
    else ((x.state state).gotos.getD (n - x.table.tokenCount) none).isSome
  | _ => false

/-- The symbol of what a lexer found. -/
def symbolOf (x : Input) : Completed → Symbol
  | .token place => .kind (x.table.firstToken + place)
  | .endOfText => .endOfText

/-- Runs the scanner in a state.  A token without text counts only where the
parser has moved on since the last error and the token leads to another
state. -/
def scan (x : Input) (state mode : Nat) (mayBeEmpty : Bool) (r : Reader) :
    Option (Symbol × Reader) :=
  let expected := (x.state mode).scannerTokens
  if expected = 0 then none
  else
    match x.scanner expected.testBit r.begin with
    | none => none
    | some (place, found) =>
      let symbol := Symbol.kind (x.table.scannerSymbols.getD place 0)
      if r.place.bytes < found.tokenEnd.bytes then some (symbol, found)
      else if mayBeEmpty && x.target state symbol != state then some (symbol, found)
      else none

/-- The token where a reader is, as a state expects it, or where the lexer gave
up. -/
def tokenAt (x : Input) (state mode : Nat) (mayBeEmpty : Bool) (r : Reader) :
    Except Reader (Symbol × Reader) :=
  match x.scan state mode mayBeEmpty r with
  | some found => .ok found
  | none =>
    let r := r.begin
    match runLexer x.table.lexer (r.remaining + 2) (x.state mode).lexer none r with
    | (some c, r) => .ok (x.symbolOf c, r)
    | (none, r) => .error r

/-- Looks for a token, first as the state expects it, then, from the start
again, as the state for text that fits nowhere does, skipping characters until
one is found.  The result is the symbol, where the token starts and where it
ends. -/
def findToken (x : Input) (state : Nat) (advanced : Bool) (origin : Extent) :
    Nat → Bool → Option (Extent × Extent) → Reader → Symbol × Extent × Extent
  | 0, _, _, r => (.error, r.place, r.place)
  | fuel + 1, lost, skipped, r =>
    match x.tokenAt state (if lost then 0 else state) (!lost && advanced) r, skipped with
    | .ok _, some (start, stop) => (.error, start, stop)
    | .ok (symbol, r), none => (symbol, r.tokenStart, r.tokenEnd)
    | .error r, _ =>
      if lost then
        let (start, stop) := skipped.getD (r.tokenStart, r.tokenStart)
        if stop.bytes < r.place.bytes then
          x.findToken state advanced origin fuel true (some (start, r.place))
            (.ofPlace x.text r.place)
        else if r.atEnd then (.error, start, stop)
        else
          let next := (r.advance false).place
          x.findToken state advanced origin fuel true (some (start, next)) (.ofPlace x.text next)
      else x.findToken state advanced origin fuel true skipped (.ofPlace x.text origin)

/-- Reads the next token in a state.  `advanced` tells whether the parser has
moved on since the last error. -/
def readToken (x : Input) (state : Nat) (advanced : Bool) (origin : Extent) : Subtree :=
  let (symbol, start, stop) :=
    x.findToken state advanced origin (2 * x.text.size + 4) (state == 0) none
      (.ofPlace x.text origin)
  .leaf x.table symbol (start.drop origin) (stop.drop start) state

end Input

end GrammarAudit.Parsing
