import GrammarAudit.Config.Check

/-!
# Requests of a session

In a session providers, descriptors, handles and results can be kept under
labels and used later.  A request names what is to be done, and an answer what
came of it.
-/

namespace GrammarAudit.Session

open Config (Entry ConfigError Report)

/-- A provider that can be had. -/
inductive Offer
  /-- The grammar that is linked in. -/
  | linked
  /-- A grammar of the library under a path. -/
  | library (name display : String) (path : Path)
  /-- A grammar whose library is searched for. -/
  | discovered (name display : String)
  /-- A configured grammar. -/
  | configured (entry : Entry)
  /-- A provider that is there already and needs no library. -/
  | given (provider : Provider)

/-- A provider that has been had. -/
inductive Supplier
  | linked (provider : Provider)
  | library (library : SharedLibrary)
  | given (provider : Provider)

namespace Supplier

/-- The supplier as a provider. -/
def provider : Supplier → Provider
  | linked p | given p => p
  | library l => l.provider

/-- How a supplier is shown in a trace, if it can be. -/
def trace? : Supplier → Option String
  | linked _ => some "BuiltinScss"
  | library l => some l.trace
  | given _ => none

end Supplier

/-- A provider that is kept under a label, or a new one. -/
inductive Subject
  | kept (label : String)
  | offered (offer : Offer)

/-- What a check or a parse found. -/
inductive Finding
  | summary (summary : Summary)
  | report (report : Report)

/-- What is to be done.  Where a label can be given, what came of the request is
kept under it. -/
inductive Request
  | setVariable (name value : String)
  | unsetVariable (name : String)
  | writeFile (path : Path) (content : Content)
  | makeDirectory (path : Path)
  | remove (path : Path)
  | provide (offer : Offer) (label : Option String)
  | describe (subject : Subject) (label : Option String)
  | load (subject : Subject) (label : Option String)
  /-- Parses a text with a handle, or, without one, with the language that is
  linked in. -/
  | parse (handle : Option String) (text : String) (label : Option String)
  | verify (entry : Entry) (label : Option String)
  | copyDescriptor (source : String) (label : Option String)
  | copyHandle (source : String) (label : Option String)
  | dropProvider (label : String)
  | dropDescriptor (label : String)
  | dropHandle (label : String)
  | dropFinding (label : String)

/-- Why a request failed. -/
inductive Failure
  | noSuchProvider
  | noSuchDescriptor
  | noSuchHandle
  | refused (error : ConfigError)

/-- What came of a request. -/
inductive Answer
  | done
  /-- What was to be taken away was there, or was not. -/
  | taken (wasThere : Bool)
  | provided (supplier : Supplier)
  | described (descriptor : Descriptor)
  | loaded (handle : Handle)
  | found (finding : Finding)

end GrammarAudit.Session
