import GrammarAudit.Provider

/-!
# Loading a language

A handle is a language that has passed every check of a load: its provider had a
descriptor, the language is not null, its version can be read and a parser
accepts it.

* `load` makes a handle from a provider, or says which check failed first.
* `Handle.checkKinds` asks for node kinds by name.
-/

namespace GrammarAudit

/-- A loaded language with the name, display name and source of its provider. -/
structure Handle where
  language : Language
  name : String
  display : String
  source : Source

namespace Handle

/-- The version that the language was generated for. -/
def abiVersion (h : Handle) : Nat := h.language.abiVersion

/-- The number of node kinds of the language. -/
def nodeKinds (h : Handle) : Nat := h.language.kinds.length

/-- A parser set to the language. -/
def parser (h : Handle) : Except GrammarError Parser :=
  h.language.parser.mapError (.rejected h.name)

/-- The event of node kinds that are missing. -/
def missingKindsEvent (name : String) (missing : List String) : Event where
  level := .warn
  target := "scss_probe_language::loader"
  message := "Grammar is missing node kinds"
  fields := [("grammar", name), ("missing", Text.quotedList missing)]

/-- Refuses a language that lacks one of the node kinds. -/
def checkKinds (h : Handle) (kinds : List String) : Logged GrammarError Unit :=
  match h.language.missingKinds kinds with
  | [] => ⟨[], .ok ()⟩
  | missing => ⟨[missingKindsEvent h.name missing], .error (.missingKinds h.name missing)⟩

end Handle

namespace Load

/-- The event that starts every load. -/
def startEvent (p : Provider) : Event where
  level := .debug
  target := "scss_probe_language::loader"
  message := "Constructing language handle"
  fields := [("grammar", Text.quoted p.name), ("source", p.source.text)]

/-- The event of a null language. -/
def nullEvent (p : Provider) : Event where
  level := .warn
  target := "scss_probe_language::loader"
  message := "Grammar returned a null language"
  fields := [("grammar", Text.quoted p.name), ("source", p.source.text)]

/-- The event of a version that cannot be read. -/
def versionEvent (p : Provider) (version : Nat) : Event where
  level := .warn
  target := "scss_probe_language::loader"
  message := "Incompatible grammar ABI version"
  fields := [("grammar", Text.quoted p.name), ("version", toString version)]

/-- The event that ends a load which succeeds. -/
def doneEvent (h : Handle) : Event where
  level := .info
  target := "scss_probe_language::loader"
  message := "Grammar loaded"
  fields := [("grammar", Text.quoted h.name), ("abi", toString h.abiVersion),
    ("node_kinds", toString h.nodeKinds)]

end Load

/-- Loads the language that a provider supplies. -/
def load (p : Provider) : Logged GrammarError Handle := do
  Logged.emit (Load.startEvent p)
  let descriptor ← Logged.ofExcept p.descriptor
  match descriptor.language with
  | none =>
    Logged.emit (Load.nullEvent p)
    Logged.fail (.absent p.display)
  | some language =>
    if language.isReadable then
      let handle : Handle := ⟨language, p.name, p.display, p.source⟩
      let _ ← Logged.ofExcept handle.parser
      Logged.emit (Load.doneEvent handle)
      pure handle
    else
      Logged.emit (Load.versionEvent p language.abiVersion)
      Logged.fail
        (.incompatibleVersion p.name language.abiVersion oldestVersion newestVersion)

end GrammarAudit
