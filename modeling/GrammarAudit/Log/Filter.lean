import GrammarAudit.Log

/-!
# Filtering the log

Which events are logged is set by directives, parted by commas.  A directive
names a level, or a part of the program with a level; the directive with the
longest name that an event's reporter starts with decides.  Directives for
spans, and for fields with a value, concern no event.

* `Filter.parse?` reads directives.
* `Filter.shows` tells whether an event is logged.
-/

namespace GrammarAudit

/-- One directive: the part of the program, the span and the fields that it is
for, and the rank of the least important events that it lets through. -/
structure Directive where
  target : Option String
  span : Option String
  fields : List String
  rank : Nat
deriving DecidableEq, Repr, Inhabited

namespace Directive

/-- The ranks by name; zero lets nothing through. -/
def rankNames : List (String × Nat) :=
  [("off", 0), ("error", 1), ("warn", 2), ("info", 3), ("debug", 4), ("trace", 5)]

/-- The rank of everything. -/
def all : Nat := 5

/-- A rank in digits, after a plus sign if there is one. -/
def rankInDigits? (level : List Char) : Option Nat :=
  let digits := if level.head? == some '+' then level.tail else level
  if digits.isEmpty || !digits.all Char.isDigit then none
  else
    let rank := digits.foldl (fun n c => 10 * n + (c.toNat - '0'.toNat)) 0
    if rank ≤ all then some rank else none

/-- The rank that a level stands for, by name or in digits; case does not
count. -/
def rank? (level : List Char) : Option Nat :=
  (rankNames.lookup (String.ofList (level.map Char.toLower))).or (rankInDigits? level)

/-- The rank after a name: none given means everything. -/
def rankAfter? : List Char → Option Nat
  | [] => some all
  | ['='] => some all
  | '=' :: level => rank? level
  | _ => none

/-- The fields between braces, parted by commas; none may be empty. -/
def fields? (cs : List Char) : Option (List String) :=
  let parts := cs.splitOn ','
  if parts.any List.isEmpty then none else some (parts.map String.ofList)

/-- Reads what follows the opening bracket of a span. -/
def span? (target : Option String) (cs : List Char) : Option Directive :=
  let (name, rest) := cs.span fun c => c != ']' && c != '\x7b'
  match rest with
  | ']' :: rest => (rankAfter? rest).map (⟨target, some (String.ofList name), [], ·⟩)
  | '\x7b' :: rest =>
    let (inner, rest) := rest.span (· != '\x7d')
    match rest with
    | '\x7d' :: ']' :: rest =>
      (fields? inner).bind fun fields => (rankAfter? rest).map
        (⟨target, if name.isEmpty then none else some (String.ofList name), fields, ·⟩)
    | _ => none
  | _ => none

/-- A character that a directive can start with. -/
def canStart (c : Char) : Bool :=
  c.isAlphanum || c == '-' || c == ':' || c == '_' || c == '[' || 0x80 ≤ c.toNat

/-- Reads a directive.  Blanks belong to the name that they stand at. -/
def parse? (cs : List Char) : Option Directive :=
  match cs.dropWhile Char.isWhitespace with
  | [] => none
  | first :: _ =>
    if canStart first then
      let (name, rest) := cs.span fun c => c != '=' && c != '['
      match rest with
      | '[' :: rest => span? (if name.isEmpty then none else some (String.ofList name)) rest
      | [] =>
        match rank? name with
        | some rank => some ⟨none, none, [], rank⟩
        | none => some ⟨some (String.ofList name), none, [], all⟩
      | rest =>
        if cs.head? == some first then
          (rankAfter? rest).map (⟨some (String.ofList name), none, [], ·⟩)
        else none
    else none

/-- The directive is about events: it names no span and asks for no value of a
field. -/
def isStatic (d : Directive) : Bool := d.span.isNone && d.fields.all fun f => '=' ∉ f.toList

/-- The directive is for an event. -/
def caresAbout (d : Directive) (e : Event) : Bool :=
  (match d.target with
    | some target => target.toList.isPrefixOf e.target.toList
    | none => true)
    && d.fields.all fun f => f == "message" || e.fields.any (·.1 == f)

/-- The first directive goes before the second: its target is longer, or it asks
for more fields. -/
def outranks (a b : Directive) : Bool :=
  let length (d : Directive) : Nat := (d.target.map fun t => t.utf8ByteSize + 1).getD 0
  length b < length a || (length a == length b && b.fields.length < a.fields.length)

end Directive

/-- The directives about events. -/
structure Filter where
  directives : List Directive
deriving Repr

namespace Filter

/-- Lets through errors only. -/
def errorsOnly : Filter := ⟨[⟨none, none, [], 1⟩]⟩

/-- Reads directives; without any, errors are let through. -/
def parse? (text : String) : Option Filter :=
  let parts := (text.toList.splitOn ',').filter (!·.isEmpty)
  if parts.isEmpty then some errorsOnly
  else (parts.mapM Directive.parse?).map fun ds => ⟨ds.filter Directive.isStatic⟩

/-- The directive that decides about an event: of those that are for it the one
that goes before all others, the last one if several do. -/
def decisive? (f : Filter) (e : Event) : Option Directive :=
  (f.directives.filter (·.caresAbout e)).foldl
    (fun best d =>
      match best with
      | some b => if b.outranks d then some b else some d
      | none => some d) none

/-- The event is logged. -/
def shows (f : Filter) (e : Event) : Bool :=
  match f.decisive? e with
  | some d => e.level.rank ≤ d.rank
  | none => false

/-- The filter without a setting: warnings, or, if more is asked for, all that
the program itself reports down to what helps in debugging it. -/
def standard (verbose : Bool) : Filter :=
  if verbose then
    ⟨[⟨some "scss_probe", none, [], 4⟩, ⟨some "scss_probe_language", none, [], 4⟩]⟩
  else ⟨[⟨none, none, [], 2⟩]⟩

/-- The filter for a setting, which is passed over if it cannot be read. -/
def ofSetting (setting : Option String) (verbose : Bool) : Filter :=
  (setting.bind parse?).getD (standard verbose)

end Filter

end GrammarAudit
