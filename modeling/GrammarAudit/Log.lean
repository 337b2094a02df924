/-!
# Log events

Operations report what they do as events next to their result; nothing is
printed while they run.  `Logged ε α` is a computation with a list of events and
a result that may be an error: events emitted before an error stay, and nothing
after it is run.

* `Logged.result_bind_eq_ok` and `Logged.result_bind_eq_error` take a sequence
  of two computations apart by its result.
* `Logged.events_bind_of_ok` and `Logged.events_bind_of_error` say which events a
  sequence reports.
* `Logged.ofExcept_ok_bind` leaves out a first computation that has its value.
-/

namespace GrammarAudit

/-- How important an event is, the most important first. -/
inductive Level
  | error
  | warn
  | info
  | debug
  | trace
deriving DecidableEq, Repr, Inhabited

namespace Level

/-- How a level is shown. -/
def text : Level → String
  | error => "ERROR"
  | warn => "WARN"
  | info => "INFO"
  | debug => "DEBUG"
  | trace => "TRACE"

/-- How far down the scale a level stands; the most important has the least
rank. -/
def rank : Level → Nat
  | error => 1
  | warn => 2
  | info => 3
  | debug => 4
  | trace => 5

end Level

/-- Something that happened: who reports it, what, and with which named values,
as they are shown. -/
structure Event where
  level : Level
  target : String
  message : String
  fields : List (String × String)
deriving DecidableEq, Repr, Inhabited

/-- The text of an event: level, reporter, message, then the values. -/
def Event.text (e : Event) : String :=
  e.level.text ++ " " ++ e.target ++ ": " ++ e.message
    ++ String.join (e.fields.map fun (name, value) => " " ++ name ++ "=" ++ value)

/-- A computation that reports events and ends with a result or an error. -/
structure Logged (ε α : Type) where
  events : List Event
  result : Except ε α

namespace Logged

variable {ε δ α β : Type}

/-- A result, without events. -/
def ofExcept (r : Except ε α) : Logged ε α := ⟨[], r⟩

/-- An error, without events. -/
def fail (e : ε) : Logged ε α := ⟨[], .error e⟩

/-- One event. -/
def emit (e : Event) : Logged ε Unit := ⟨[e], .ok ()⟩

/-- Some events. -/
def emitAll (es : List Event) : Logged ε Unit := ⟨es, .ok ()⟩

/-- First `x`, then what follows from its value; an error ends the
computation. -/
def andThen (x : Logged ε α) (f : α → Logged ε β) : Logged ε β :=
  match x.result with
  | .error e => ⟨x.events, .error e⟩
  | .ok a => ⟨x.events ++ (f a).events, (f a).result⟩

instance : Monad (Logged ε) where
  pure a := ⟨[], .ok a⟩
  bind := andThen

/-- The same computation with its error put in other terms. -/
def mapError (f : ε → δ) (x : Logged ε α) : Logged δ α :=
  ⟨x.events, x.result.mapError f⟩

@[simp] theorem result_pure (a : α) : (pure a : Logged ε α).result = .ok a := rfl

@[simp] theorem result_ofExcept (r : Except ε α) : (ofExcept r).result = r := rfl

@[simp] theorem result_fail (e : ε) : (fail e : Logged ε α).result = .error e := rfl

@[simp] theorem result_emit (e : Event) : (emit e : Logged ε Unit).result = .ok () := rfl

@[simp] theorem result_emitAll (es : List Event) :
    (emitAll es : Logged ε Unit).result = .ok () := rfl

@[simp] theorem result_mapError (f : ε → δ) (x : Logged ε α) :
    (x.mapError f).result = x.result.mapError f := rfl

/-- The result of a sequence is the result of its second part on the value of
the first. -/
@[simp] theorem result_bind (x : Logged ε α) (f : α → Logged ε β) :
    (x >>= f).result = x.result.bind fun a => (f a).result := by
  show (x.andThen f).result = _
  unfold andThen
  cases x.result with
  | error e => rfl
  | ok a => rfl

/-- A sequence succeeds when both of its parts do. -/
theorem result_bind_eq_ok {x : Logged ε α} {f : α → Logged ε β} {b : β} :
    (x >>= f).result = .ok b ↔ ∃ a, x.result = .ok a ∧ (f a).result = .ok b := by
  rw [result_bind]
  cases x.result with
  | error e => simp [Except.bind]
  | ok a => simp [Except.bind]

/-- A sequence fails when its first part fails, or its second part on the value
of the first. -/
theorem result_bind_eq_error {x : Logged ε α} {f : α → Logged ε β} {e : ε} :
    (x >>= f).result = .error e ↔
      x.result = .error e ∨ ∃ a, x.result = .ok a ∧ (f a).result = .error e := by
  rw [result_bind]
  cases x.result with
  | error e => simp [Except.bind]
  | ok a => simp [Except.bind]

@[simp] theorem events_pure (a : α) : (pure a : Logged ε α).events = [] := rfl

@[simp] theorem events_ofExcept (r : Except ε α) : (ofExcept r).events = [] := rfl

@[simp] theorem events_emit (e : Event) : (emit e : Logged ε Unit).events = [e] := rfl

@[simp] theorem events_emitAll (es : List Event) :
    (emitAll es : Logged ε Unit).events = es := rfl

@[simp] theorem events_mapError (f : ε → δ) (x : Logged ε α) :
    (x.mapError f).events = x.events := rfl

/-- The events of a sequence whose first part succeeds are those of both
parts. -/
theorem events_bind_of_ok {x : Logged ε α} {a : α} (h : x.result = .ok a)
    (f : α → Logged ε β) : (x >>= f).events = x.events ++ (f a).events := by
  show (x.andThen f).events = _
  rw [andThen, h]

/-- The events of a sequence whose first part fails are those of this part. -/
theorem events_bind_of_error {x : Logged ε α} {e : ε} (h : x.result = .error e)
    (f : α → Logged ε β) : (x >>= f).events = x.events := by
  show (x.andThen f).events = _
  rw [andThen, h]

/-- What follows a value that is there follows without events of its own. -/
theorem ofExcept_ok_bind (a : α) (f : α → Logged ε β) : (ofExcept (.ok a) >>= f) = f a := by
  show (ofExcept (.ok a)).andThen f = f a
  rw [andThen, result_ofExcept, events_ofExcept]
  rfl

end Logged

section MapError

variable {ε δ α : Type} {f : ε → δ}

@[simp] theorem mapError_ok (a : α) : (Except.ok a : Except ε α).mapError f = .ok a := rfl

@[simp] theorem mapError_error (e : ε) :
    (Except.error e : Except ε α).mapError f = .error (f e) := rfl

/-- A success stays one when its errors are put in other terms. -/
theorem mapError_eq_ok {r : Except ε α} {a : α} : r.mapError f = .ok a ↔ r = .ok a := by
  cases r with
  | error e => simp
  | ok b => simp

/-- A failure in other terms comes from a failure. -/
theorem mapError_eq_error {r : Except ε α} {d : δ} :
    r.mapError f = .error d ↔ ∃ e, r = .error e ∧ f e = d := by
  cases r with
  | error e => simp
  | ok b => simp

end MapError

section Map

variable {ε α β : Type} {f : α → β}

/-- A value in other terms comes from a value. -/
theorem map_eq_ok {r : Except ε α} {b : β} : r.map f = .ok b ↔ ∃ a, r = .ok a ∧ f a = b := by
  cases r with
  | error e => simp [Except.map]
  | ok a => simp [Except.map]

/-- A failure stays one when its values are put in other terms. -/
theorem map_eq_error {r : Except ε α} {e : ε} : r.map f = .error e ↔ r = .error e := by
  cases r with
  | error e => simp [Except.map]
  | ok a => simp [Except.map]

end Map

end GrammarAudit
