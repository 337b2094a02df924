import GrammarAudit.Session.Pool
import GrammarAudit.Session.Request

/-!
# Sessions

A session is a history of requests in changing surroundings.  It keeps what its
requests made, and it counts who holds the libraries that were opened: a kept
provider, descriptor or handle that was made from a library holds it, a finding
does not.

* `Session.answer` does one request; a request that fails leaves everything kept
  as it was.
* `Session.answerAll` does some requests, one after the other.
-/

namespace GrammarAudit

/-- The surroundings, the opened libraries with their holders, and all that is
kept. -/
structure Session where
  world : World
  pool : Pool
  providers : Shelf Session.Supplier
  descriptors : Shelf Descriptor
  handles : Shelf Handle
  findings : Shelf Session.Finding

namespace Session

open Config (Entry ConfigError)

/-- A session in which nothing has happened yet. -/
def start (world : World) : Session := ⟨world, .empty, .empty, .empty, .empty, .empty⟩

/-- One more holder of a library. -/
def retain (s : Session) (library : Option LibraryId) : Session :=
  { s with pool := s.pool.retain library }

/-- One holder of a library less. -/
def release (s : Session) (library : Option LibraryId) : Session :=
  { s with pool := s.pool.release library }

/-- Keeps a provider, or lets it go if there is no label for it. -/
def keepProvider (s : Session) (label : Option String) (item : Sourced Supplier) : Session :=
  match label with
  | some label =>
    { s with providers := s.providers.put label item }.release (s.providers.libraryOf label)
  | none => s.release item.library

/-- Keeps a descriptor, or lets it go if there is no label for it. -/
def keepDescriptor (s : Session) (label : Option String) (item : Sourced Descriptor) : Session :=
  match label with
  | some label =>
    { s with descriptors := s.descriptors.put label item }.release (s.descriptors.libraryOf label)
  | none => s.release item.library

/-- Keeps a handle, or lets it go if there is no label for it. -/
def keepHandle (s : Session) (label : Option String) (item : Sourced Handle) : Session :=
  match label with
  | some label =>
    { s with handles := s.handles.put label item }.release (s.handles.libraryOf label)
  | none => s.release item.library

/-- Keeps a finding if there is a label for it; findings hold no library. -/
def keepFinding (s : Session) (label : Option String) (item : Sourced Finding) : Session :=
  match label with
  | some label => { s with findings := s.findings.put label item }
  | none => s

/-- A grammar error as the failure of a request. -/
def refusedGrammar (e : GrammarError) : Failure := .refused (.grammar e)

/-- Notes a library that was opened as one of the session, held by the supplier
made from it. -/
def adopt (s : Session) :
    Except Failure SharedLibrary → Except Failure (Sourced Supplier) × Session
  | .ok library => (.ok ⟨.library library, some s.pool.next⟩, { s with pool := s.pool.add })
  | .error e => (.error e, s)

/-- The supplier that an offer describes.  A library is opened for it. -/
def supply (s : Session) : Offer → Except Failure (Sourced Supplier) × Session
  | .linked => (.ok ⟨.linked s.world.linkedProvider, none⟩, s)
  | .given provider => (.ok ⟨.given provider, none⟩, s)
  | .library name display path =>
    s.adopt ((SharedLibrary.open s.world.files name display path).result.mapError refusedGrammar)
  | .discovered name display =>
    s.adopt ((SharedLibrary.discover s.world name display).result.mapError refusedGrammar)
  | .configured entry =>
    match entry.source with
    | .library path => s.adopt ((entry.openLibrary s.world path).result.mapError .refused)
    | .builtin =>
      (((entry.provider s.world).result.mapError Failure.refused).map fun provider =>
        ⟨.linked provider, none⟩, s)

/-- Does something with a provider; one that is not kept is let go
afterwards. -/
def withSubject {α : Type} (s : Session) (subject : Subject)
    (use : Session → Sourced Supplier → Except Failure α × Session) : Except Failure α × Session :=
  match subject with
  | .kept label =>
    match s.providers.get? label with
    | some item => use s item
    | none => (.error .noSuchProvider, s)
  | .offered offer =>
    match s.supply offer with
    | (.error e, supplied) => (.error e, supplied)
    | (.ok item, supplied) =>
      let (result, used) := use supplied item
      (result, used.release item.library)

/-- The descriptor of a provider; it holds the provider's library too. -/
def takeDescriptor (s : Session) (item : Sourced Supplier) :
    Except Failure (Sourced Descriptor) × Session :=
  match item.value.provider.descriptor with
  | .ok descriptor => (.ok ⟨descriptor, item.library⟩, s.retain item.library)
  | .error e => (.error (refusedGrammar e), s)

/-- Loads the language of a provider.  The descriptor holds the library while
the load runs, and the handle holds it from then on. -/
def takeHandle (s : Session) (item : Sourced Supplier) :
    Except Failure (Sourced Handle) × Session :=
  match s.takeDescriptor item with
  | (.error e, described) => (.error e, described)
  | (.ok descriptor, described) =>
    match (load item.value.provider).result with
    | .ok handle =>
      (.ok ⟨handle, descriptor.library⟩,
        (described.retain descriptor.library).release descriptor.library)
    | .error e => (.error (refusedGrammar e), described.release descriptor.library)

/-- The handle under a label, or, without one, the language that is linked
in. -/
def handle (s : Session) : Option String → Except Failure (Sourced Handle)
  | some label =>
    match s.handles.get? label with
    | some item => .ok item
    | none => .error .noSuchHandle
  | none =>
    ((load s.world.linkedProvider).result.mapError refusedGrammar).map (⟨·, none⟩)

/-- Parses a text with a handle. -/
def parse (s : Session) (label : Option String) (text : String) :
    Except Failure (Sourced Finding) := do
  let item ← s.handle label
  let summary ← (item.value.parseSample text).result.mapError refusedGrammar
  return ⟨.summary summary, item.library⟩

/-- Checks a configured grammar; what was opened and loaded for the check is let
go at its end. -/
def verify (s : Session) (entry : Entry) : Except Failure (Sourced Finding) × Session :=
  match s.supply (.configured entry) with
  | (.error e, supplied) => (.error e, supplied)
  | (.ok item, supplied) =>
    let (loaded, used) := supplied.takeHandle item
    let checked := match loaded with
      | .ok handle => used.release handle.library
      | .error _ => used
    (((entry.verify s.world).result.mapError Failure.refused).map fun report =>
      ⟨.report report, item.library⟩, checked.release item.library)

/-- What came of a step, kept as `keep` does and told as `tell` does. -/
def conclude {α : Type} (result : Except Failure (Sourced α) × Session)
    (keep : Session → Sourced α → Session) (tell : α → Answer) : Except Failure Answer × Session :=
  match result with
  | (.ok item, s) => (.ok (tell item.value), keep s item)
  | (.error e, s) => (.error e, s)

/-- The session with other surroundings. -/
def inWorld (s : Session) (world : World) : Session := { s with world }

/-- Does one request. -/
def answer (s : Session) : Request → Except Failure Answer × Session
  | .setVariable name value =>
    (.ok .done, s.inWorld { s.world with environment := s.world.environment.set name value })
  | .unsetVariable name =>
    (.ok .done, s.inWorld { s.world with environment := s.world.environment.unset name })
  | .writeFile path content =>
    (.ok .done, s.inWorld { s.world with files := s.world.files.writeFile path content })
  | .makeDirectory path =>
    (.ok .done, s.inWorld { s.world with files := s.world.files.makeDirectory path })
  | .remove path =>
    (.ok (.taken (s.world.files.exists path)),
      s.inWorld { s.world with files := s.world.files.remove path })
  | .provide offer label =>
    conclude (s.supply offer) (·.keepProvider label ·) .provided
  | .describe subject label =>
    conclude (s.withSubject subject takeDescriptor) (·.keepDescriptor label ·) .described
  | .load subject label =>
    conclude (s.withSubject subject takeHandle) (·.keepHandle label ·) .loaded
  | .parse handle text label =>
    conclude (s.parse handle text, s) (·.keepFinding label ·) .found
  | .verify entry label =>
    conclude (s.verify entry) (·.keepFinding label ·) .found
  | .copyDescriptor source label =>
    match s.descriptors.get? source with
    | some item =>
      (.ok (.described item.value), (s.retain item.library).keepDescriptor label item)
    | none => (.error .noSuchDescriptor, s)
  | .copyHandle source label =>
    match s.handles.get? source with
    | some item =>
      (.ok (.loaded item.value), (s.retain item.library).keepHandle label item)
    | none => (.error .noSuchHandle, s)
  | .dropProvider label =>
    (.ok (.taken (s.providers.get? label).isSome),
      { s with providers := s.providers.drop label }.release (s.providers.libraryOf label))
  | .dropDescriptor label =>
    (.ok (.taken (s.descriptors.get? label).isSome),
      { s with descriptors := s.descriptors.drop label }.release (s.descriptors.libraryOf label))
  | .dropHandle label =>
    (.ok (.taken (s.handles.get? label).isSome),
      { s with handles := s.handles.drop label }.release (s.handles.libraryOf label))
  | .dropFinding label =>
    (.ok (.taken (s.findings.get? label).isSome),
      { s with findings := s.findings.drop label })

/-- The session after some requests. -/
def answerAll (s : Session) (requests : List Request) : Session :=
  requests.foldl (fun s request => (s.answer request).2) s

end Session

end GrammarAudit
