import GrammarAudit.Proofs.Loading
import GrammarAudit.Session

/-!
# Every handle is sound

A handle promises that its language has a version that can be read, that it has
a parser, and that a text is refused only for how it parses.  A load makes no
other handles: it asks for the version before it makes one, and the parser's own
check of the version asks the same again.  So the promise does not depend on the
provider, and a session cannot lose it: what a request adds to the handles that
are kept is a handle from a load, or a copy of one that is kept already.

* `Handle.Sound`, `Handle.sound_of_load`: the promise, and that a load makes it.
* `Session.HandleStep`, `Session.answer_handleStep`: all that one request can do
  to the handles that are kept.
* `Session.answerAll_handlesSound`: after any requests all of them are sound.
* `Session.answer_load_eq_ok_iff`, `Session.answer_load_eq_rejected_iff`: what
  comes of a load in a session.
* `Session.loads_and_handles_sound`: all of this, for every provider and every
  session.
-/

namespace GrammarAudit

/-- What a handle promises: a version that can be read, a parser, and that a
parse fails for nothing but the text. -/
structure Handle.Sound (h : Handle) : Prop where
  version : 13 ≤ h.abiVersion ∧ h.abiVersion ≤ 15
  parser : h.parser = .ok ⟨h.language⟩
  parseSample : ∀ text e, (h.parseSample text).result = .error e →
    ∃ reason, e = .parse h.name reason

/-- A handle is sound if its language has a version that can be read. -/
theorem Handle.sound_of_isReadable {h : Handle} (hread : h.language.isReadable = true) :
    h.Sound where
  version := h.language.isReadable_iff.mp hread
  parser := h.parser_eq_ok hread
  parseSample := by
    intro text e hsample
    rcases (h.parseSample_eq_error_iff text e).mp hsample with hparser | ⟨_, fault, -, -, rfl⟩
    · rw [h.parser_eq_ok hread] at hparser
      cases hparser
    · exact ⟨fault.message, rfl⟩

/-- **Soundness of a load.**  Whatever the provider, the handle is sound. -/
theorem Handle.sound_of_load {p : Provider} {h : Handle} (hload : (load p).result = .ok h) :
    h.Sound := by
  obtain ⟨language, dynamic, -, hread, rfl⟩ := (load_eq_ok_iff p h).mp hload
  exact Handle.sound_of_isReadable hread

/-- A load fails because a parser refuses the language only if the provider says
so. -/
theorem load_eq_rejected_iff (p : Provider) (grammar reason : String) :
    (load p).result = .error (.rejected grammar reason) ↔
      p.descriptor = .error (.rejected grammar reason) := by
  rw [load_eq_error_iff]
  simp

/-- Opening a library fails because it cannot be opened. -/
theorem SharedLibrary.open_eq_error {fs : FileSystem} {name display : String} {path : Path}
    {e : GrammarError} (h : (SharedLibrary.open fs name display path).result = .error e) :
    ∃ reason, e = .loadError reason := by
  unfold SharedLibrary.open at h
  cases hopen : fs.openLibrary path with
  | ok object => simp [hopen] at h
  | error fault => exact ⟨_, by simpa [hopen, eq_comm] using h⟩

/-- A search fails because nothing is found. -/
theorem FileSystem.findLibraryIn_eq_error {fs : FileSystem} {name : String}
    {directories : List Path} {e : GrammarError}
    (h : fs.findLibraryIn name directories = .error e) : e = .notFound name := by
  unfold FileSystem.findLibraryIn at h
  cases hfind : (directories.map (libraryPath name)).find? fs.exists with
  | some path => simp [hfind] at h
  | none => simpa [hfind, eq_comm] using h

/-- Opening the library of an entry fails because it is not found or cannot be
opened. -/
theorem Config.Entry.openLibrary_eq_error {w : World} {entry : Config.Entry} {path : Path}
    {e : Config.ConfigError} (h : (entry.openLibrary w path).result = .error e) :
    e = .grammar (.notFound entry.name) ∨ ∃ reason, e = .grammar (.loadError reason) := by
  rcases Logged.result_bind_eq_error.mp h with hfile | ⟨file, -, hopen⟩
  · obtain ⟨error, herror, rfl⟩ := mapError_eq_error.mp hfile
    left
    unfold libraryFile at herror
    cases hdirectory : w.files.isDirectory path with
    | false => simp [hdirectory] at herror
    | true =>
        rw [hdirectory, if_pos rfl] at herror
        rw [FileSystem.findLibraryIn_eq_error herror]
  · obtain ⟨error, herror, rfl⟩ := mapError_eq_error.mp hopen
    obtain ⟨reason, rfl⟩ := SharedLibrary.open_eq_error herror
    exact Or.inr ⟨reason, rfl⟩

namespace Session

open Config (Entry ConfigError)

/-- The provider that the subject of a request stands for: one that is kept, or
one that can be had. -/
inductive StandsFor (s : Session) : Subject → Sourced Supplier → Prop
  | kept {label : String} {item : Sourced Supplier} (h : s.providers.get? label = some item) :
      StandsFor s (.kept label) item
  | offered {offer : Offer} {item : Sourced Supplier} (h : (s.supply offer).1 = .ok item) :
      StandsFor s (.offered offer) item

/-- All that one request can do to the handles that are kept: nothing; for a load
to keep the handle that was loaded, for a copy to keep one that is kept already,
for a drop to let one go. -/
inductive HandleStep (s : Session) : Request → Shelf Handle → Prop
  | same (request : Request) : HandleStep s request s.handles
  | loaded {subject : Subject} {supplier : Sourced Supplier} {h : Handle}
      (hsupplier : s.StandsFor subject supplier)
      (hload : (load supplier.value.provider).result = .ok h) (label : String) :
      HandleStep s (.load subject (some label)) (s.handles.put label ⟨h, supplier.library⟩)
  | copied {source : String} {item : Sourced Handle} (hsource : s.handles.get? source = some item)
      (label : String) : HandleStep s (.copyHandle source (some label)) (s.handles.put label item)
  | dropped (label : String) : HandleStep s (.dropHandle label) (s.handles.drop label)

/-- Every handle that is kept is sound. -/
def HandlesSound (s : Session) : Prop :=
  ∀ label item, s.handles.get? label = some item → item.value.Sound

/-- The values that are kept are the same: what is done on the way to a result
concerns the holders of libraries only. -/
structure SameShelves (s s' : Session) : Prop where
  providers : s'.providers = s.providers
  descriptors : s'.descriptors = s.descriptors
  handles : s'.handles = s.handles
  findings : s'.findings = s.findings

section Frame

variable {s s' : Session}

theorem SameShelves.refl (s : Session) : s.SameShelves s := ⟨rfl, rfl, rfl, rfl⟩

theorem SameShelves.trans {s'' : Session} (h : s.SameShelves s') (h' : s'.SameShelves s'') :
    s.SameShelves s'' :=
  ⟨h'.providers.trans h.providers, h'.descriptors.trans h.descriptors,
    h'.handles.trans h.handles, h'.findings.trans h.findings⟩

theorem SameShelves.retain (h : s.SameShelves s') (library : Option LibraryId) :
    s.SameShelves (s'.retain library) := ⟨h.providers, h.descriptors, h.handles, h.findings⟩

theorem SameShelves.release (h : s.SameShelves s') (library : Option LibraryId) :
    s.SameShelves (s'.release library) := ⟨h.providers, h.descriptors, h.handles, h.findings⟩

theorem sameShelves_adopt (s : Session) (opened : Except Failure SharedLibrary) :
    s.SameShelves (s.adopt opened).2 := by
  cases opened with
  | error e => exact .refl s
  | ok library => exact ⟨rfl, rfl, rfl, rfl⟩

/-- Having a provider keeps nothing. -/
theorem sameShelves_supply (s : Session) (offer : Offer) : s.SameShelves (s.supply offer).2 := by
  cases offer with
  | linked => exact .refl s
  | given provider => exact .refl s
  | library name display path => exact s.sameShelves_adopt _
  | discovered name display => exact s.sameShelves_adopt _
  | configured entry =>
      cases hsource : entry.source with
      | library path =>
          simp only [supply, hsource]
          exact s.sameShelves_adopt _
      | builtin =>
          simp only [supply, hsource]
          exact .refl s

theorem sameShelves_takeDescriptor (s : Session) (item : Sourced Supplier) :
    s.SameShelves (s.takeDescriptor item).2 := by
  unfold takeDescriptor
  cases item.value.provider.descriptor with
  | error e => exact .refl s
  | ok descriptor => exact (SameShelves.refl s).retain _

/-- Taking a descriptor and loading its language keep nothing yet. -/
theorem sameShelves_takeHandle (s : Session) (item : Sourced Supplier) :
    s.SameShelves (s.takeHandle item).2 := by
  have hdescribed := s.sameShelves_takeDescriptor item
  unfold takeHandle
  generalize s.takeDescriptor item = taken at hdescribed ⊢
  obtain ⟨result, described⟩ := taken
  cases result with
  | error e => exact hdescribed
  | ok descriptor =>
      simp only
      cases (load item.value.provider).result with
      | error e => exact hdescribed.release _
      | ok handle => exact (hdescribed.retain _).release _

/-- Doing something with a provider keeps nothing if what is done does not. -/
theorem sameShelves_withSubject {α : Type} (s : Session) (subject : Subject)
    {use : Session → Sourced Supplier → Except Failure α × Session}
    (huse : ∀ (s : Session) (item : Sourced Supplier), s.SameShelves (use s item).2) :
    s.SameShelves (s.withSubject subject use).2 := by
  cases subject with
  | kept label =>
      cases hkept : s.providers.get? label with
      | none =>
          simp only [withSubject, hkept]
          exact .refl s
      | some item =>
          simp only [withSubject, hkept]
          exact huse s item
  | offered offer =>
      have hsupplied := s.sameShelves_supply offer
      simp only [withSubject]
      generalize s.supply offer = had at hsupplied ⊢
      obtain ⟨result, supplied⟩ := had
      cases result with
      | error e => exact hsupplied
      | ok item => exact (hsupplied.trans (huse supplied item)).release _

/-- A check keeps nothing on the way. -/
theorem sameShelves_verify (s : Session) (entry : Entry) : s.SameShelves (s.verify entry).2 := by
  have hsupplied := s.sameShelves_supply (.configured entry)
  unfold verify
  generalize s.supply (.configured entry) = had at hsupplied ⊢
  obtain ⟨result, supplied⟩ := had
  cases result with
  | error e => exact hsupplied
  | ok item =>
      have hused := hsupplied.trans (supplied.sameShelves_takeHandle item)
      simp only
      generalize supplied.takeHandle item = taken at hused ⊢
      obtain ⟨loaded, used⟩ := taken
      cases loaded with
      | error e => exact hused.release _
      | ok handle => exact (hused.release _).release _

@[simp] theorem handles_keepProvider (s : Session) (label : Option String)
    (item : Sourced Supplier) : (s.keepProvider label item).handles = s.handles := by
  cases label <;> rfl

@[simp] theorem handles_keepDescriptor (s : Session) (label : Option String)
    (item : Sourced Descriptor) : (s.keepDescriptor label item).handles = s.handles := by
  cases label <;> rfl

@[simp] theorem handles_keepFinding (s : Session) (label : Option String)
    (item : Sourced Finding) : (s.keepFinding label item).handles = s.handles := by
  cases label <;> rfl

/-- Concluding a step leaves alone what keeping its outcome does. -/
theorem conclude_frame {α β : Type} (part : Session → β)
    (result : Except Failure (Sourced α) × Session) {keep : Session → Sourced α → Session}
    (hkeep : ∀ s item, part (keep s item) = part s) (tell : α → Answer) :
    part (conclude result keep tell).2 = part result.2 := by
  obtain ⟨outcome, s⟩ := result
  cases outcome with
  | error e => rfl
  | ok item => exact hkeep s item

/-- Concluding a step leaves the handles alone if what is kept is none. -/
theorem handles_conclude {α : Type} (result : Except Failure (Sourced α) × Session)
    {keep : Session → Sourced α → Session} (hkeep : ∀ s item, (keep s item).handles = s.handles)
    (tell : α → Answer) : (conclude result keep tell).2.handles = result.2.handles :=
  conclude_frame handles result hkeep tell

end Frame

/-- **Loading in a session.**  What comes of it is what comes of the load
itself. -/
theorem takeHandle_result (s : Session) (item : Sourced Supplier) :
    (s.takeHandle item).1
      = ((load item.value.provider).result.mapError refusedGrammar).map (⟨·, item.library⟩) := by
  unfold takeHandle takeDescriptor
  cases hdescriptor : item.value.provider.descriptor with
  | error e =>
      have hload := (load_eq_error_iff item.value.provider e).mpr (Or.inl hdescriptor)
      simp [hload, Except.map]
  | ok descriptor =>
      cases (load item.value.provider).result with
      | error e => rfl
      | ok handle => rfl

/-- A subject stands for one provider at most. -/
theorem StandsFor.unique {s : Session} {subject : Subject} {item item' : Sourced Supplier}
    (h : s.StandsFor subject item) (h' : s.StandsFor subject item') : item = item' := by
  cases h with
  | kept h =>
      cases h' with
      | kept h' => exact Option.some.inj (h.symm.trans h')
  | offered h =>
      cases h' with
      | offered h' => exact Except.ok.inj (h.symm.trans h')

/-- What is done with a subject's provider gives the result, if there is a
provider; otherwise the cause is that none is kept or none can be had. -/
theorem withSubject_result {α : Type} (s : Session) (subject : Subject)
    (use : Session → Sourced Supplier → Except Failure α × Session) :
    (∃ item s', s.StandsFor subject item ∧ (s.withSubject subject use).1 = (use s' item).1) ∨
      ((∀ item, ¬ s.StandsFor subject item) ∧
        ∃ failure, (s.withSubject subject use).1 = .error failure ∧
          (failure = .noSuchProvider ∨ ∃ offer, (s.supply offer).1 = .error failure)) := by
  cases subject with
  | kept label =>
      cases hkept : s.providers.get? label with
      | some item => exact Or.inl ⟨item, s, .kept hkept, by simp [withSubject, hkept]⟩
      | none =>
          refine Or.inr ⟨fun item h => ?_, .noSuchProvider, by simp [withSubject, hkept],
            Or.inl rfl⟩
          cases h with
          | kept h => simp [hkept] at h
  | offered offer =>
      rcases hsupply : s.supply offer with ⟨result, supplied⟩
      cases result with
      | ok item =>
          exact Or.inl ⟨item, supplied, .offered (by rw [hsupply]), by simp [withSubject, hsupply]⟩
      | error failure =>
          refine Or.inr ⟨fun item h => ?_, failure, by simp [withSubject, hsupply],
            Or.inr ⟨offer, by rw [hsupply]⟩⟩
          cases h with
          | offered h => simp [hsupply] at h

/-- The result of a step is told as it is. -/
theorem conclude_result {α : Type} (result : Except Failure (Sourced α) × Session)
    (keep : Session → Sourced α → Session) (tell : α → Answer) :
    (conclude result keep tell).1 = result.1.map fun item => tell item.value := by
  obtain ⟨outcome, s⟩ := result
  cases outcome with
  | error e => rfl
  | ok item => rfl

/-- What comes of a load in a session is what comes of the load of the provider
that its subject stands for. -/
theorem answer_load_result (s : Session) (subject : Subject) (label : Option String) :
    (∃ item, s.StandsFor subject item ∧ (s.answer (.load subject label)).1
      = ((load item.value.provider).result.mapError refusedGrammar).map .loaded) ∨
      ((∀ item, ¬ s.StandsFor subject item) ∧
        ∃ failure, (s.answer (.load subject label)).1 = .error failure ∧
          (failure = .noSuchProvider ∨ ∃ offer, (s.supply offer).1 = .error failure)) := by
  have hanswer : (s.answer (.load subject label)).1
      = (s.withSubject subject takeHandle).1.map fun item => .loaded item.value :=
    conclude_result _ _ _
  rw [hanswer]
  rcases s.withSubject_result subject takeHandle with
    ⟨item, s', hitem, hresult⟩ | ⟨hnone, failure, hresult, hcause⟩
  · refine Or.inl ⟨item, hitem, ?_⟩
    rw [hresult, takeHandle_result]
    cases (load item.value.provider).result with
    | error e => rfl
    | ok handle => rfl
  · exact Or.inr ⟨hnone, failure, by rw [hresult]; rfl, hcause⟩

/-- **A load in a session.**  It succeeds when the subject of the request stands
for a provider whose load does. -/
theorem answer_load_eq_ok_iff (s : Session) (subject : Subject) (label : Option String)
    (a : Answer) :
    (s.answer (.load subject label)).1 = .ok a ↔
      ∃ item h, s.StandsFor subject item ∧ (load item.value.provider).result = .ok h ∧
        a = .loaded h := by
  rcases s.answer_load_result subject label with
    ⟨item, hitem, hresult⟩ | ⟨hnone, failure, hresult, -⟩
  · rw [hresult, map_eq_ok]
    constructor
    · intro h
      obtain ⟨handle, hload, rfl⟩ := h
      exact ⟨item, handle, hitem, mapError_eq_ok.mp hload, rfl⟩
    · intro h
      obtain ⟨item', handle, hitem', hload, rfl⟩ := h
      obtain rfl := hitem.unique hitem'
      exact ⟨handle, mapError_eq_ok.mpr hload, rfl⟩
  · rw [hresult]
    constructor
    · intro h
      cases h
    · intro h
      obtain ⟨item, -, hitem, -, -⟩ := h
      exact absurd hitem (hnone item)

/-- Noting a library that was opened fails when opening it does. -/
theorem adopt_eq_error (s : Session) {opened : Except Failure SharedLibrary} {failure : Failure} :
    (s.adopt opened).1 = .error failure ↔ opened = .error failure := by
  cases opened with
  | error e => simp [adopt]
  | ok library => simp [adopt]

/-- Having a provider never fails because a parser refuses a language: nothing
is loaded for it. -/
theorem supply_ne_rejected (s : Session) (offer : Offer) (grammar reason : String) :
    (s.supply offer).1 ≠ .error (refusedGrammar (.rejected grammar reason)) := by
  intro h
  cases offer with
  | linked => cases h
  | given provider => cases h
  | library name display path =>
      obtain ⟨e, hopen, he⟩ := mapError_eq_error.mp (s.adopt_eq_error.mp h)
      obtain ⟨_, rfl⟩ := SharedLibrary.open_eq_error hopen
      cases he
  | discovered name display =>
      obtain ⟨e, hdiscover, he⟩ := mapError_eq_error.mp (s.adopt_eq_error.mp h)
      rcases Logged.result_bind_eq_error.mp hdiscover with hfind | ⟨path, -, hopen⟩
      · rw [FileSystem.findLibraryIn_eq_error hfind] at he
        cases he
      · obtain ⟨_, rfl⟩ := SharedLibrary.open_eq_error hopen
        cases he
  | configured entry =>
      cases hsource : entry.source with
      | builtin =>
          simp only [supply, hsource, map_eq_error, mapError_eq_error, Entry.provider] at h
          by_cases hname : entry.name = linkedName
          · simp [hname] at h
          · simp [hname, refusedGrammar] at h
      | library path =>
          simp only [supply, hsource, adopt_eq_error, mapError_eq_error] at h
          obtain ⟨e, hopen, he⟩ := h
          rcases Entry.openLibrary_eq_error hopen with rfl | ⟨_, rfl⟩
          · cases he
          · cases he

/-- A load in a session fails because a parser refuses the language only if the
provider says so. -/
theorem answer_load_eq_rejected_iff (s : Session) (subject : Subject) (label : Option String)
    (grammar reason : String) :
    (s.answer (.load subject label)).1 = .error (refusedGrammar (.rejected grammar reason)) ↔
      ∃ item, s.StandsFor subject item ∧
        item.value.provider.descriptor = .error (.rejected grammar reason) := by
  rcases s.answer_load_result subject label with
    ⟨item, hitem, hresult⟩ | ⟨hnone, failure, hresult, hcause⟩
  · rw [hresult, map_eq_error, mapError_eq_error]
    constructor
    · intro h
      obtain ⟨e, hload, he⟩ := h
      obtain rfl : e = .rejected grammar reason := by simpa [refusedGrammar] using he
      exact ⟨item, hitem, (load_eq_rejected_iff _ _ _).mp hload⟩
    · intro h
      obtain ⟨item', hitem', hdescriptor⟩ := h
      obtain rfl := hitem.unique hitem'
      exact ⟨_, (load_eq_rejected_iff _ _ _).mpr hdescriptor, rfl⟩
  · rw [hresult]
    constructor
    · intro h
      obtain rfl := Except.error.inj h
      rcases hcause with h | ⟨offer, hsupply⟩
      · cases h
      · exact absurd hsupply (s.supply_ne_rejected offer grammar reason)
    · intro h
      obtain ⟨item, hitem, -⟩ := h
      exact absurd hitem (hnone item)

/-- A load in a session keeps the handle that was loaded, if there is a label for
it. -/
theorem answer_load_handleStep (s : Session) (subject : Subject) (label : Option String) :
    s.HandleStep (.load subject label) (s.answer (.load subject label)).2.handles := by
  rcases hresult : s.withSubject subject takeHandle with ⟨outcome, used⟩
  have hused : used.handles = s.handles := by
    rw [← (s.sameShelves_withSubject subject sameShelves_takeHandle).handles, hresult]
  cases outcome with
  | error e =>
      have hanswer : (s.answer (.load subject label)).2 = used := by
        simp [answer, hresult, conclude]
      rw [hanswer, hused]
      exact .same _
  | ok loaded =>
      have hanswer : (s.answer (.load subject label)).2 = used.keepHandle label loaded := by
        simp [answer, hresult, conclude]
      rw [hanswer]
      cases label with
      | none =>
          show s.HandleStep _ used.handles
          rw [hused]
          exact .same _
      | some label =>
          show s.HandleStep _ (used.handles.put label loaded)
          rw [hused]
          rcases s.withSubject_result subject takeHandle with
            ⟨item, s', hitem, hloaded⟩ | ⟨-, failure, hloaded, -⟩
          · rw [hresult, takeHandle_result] at hloaded
            obtain ⟨handle, hload, rfl⟩ := map_eq_ok.mp hloaded.symm
            exact .loaded hitem (mapError_eq_ok.mp hload) label
          · rw [hresult] at hloaded
            cases hloaded

/-- **One request.**  It changes the handles that are kept in no other way. -/
theorem answer_handleStep (s : Session) (request : Request) :
    s.HandleStep request (s.answer request).2.handles := by
  have hsame : (s.answer request).2.handles = s.handles →
      s.HandleStep request (s.answer request).2.handles := by
    intro h
    rw [h]
    exact .same request
  cases request with
  | load subject label => exact s.answer_load_handleStep subject label
  | copyHandle source label =>
      cases hsource : s.handles.get? source with
      | none => exact hsame (by simp [answer, hsource])
      | some item =>
          have hkept : (s.answer (.copyHandle source label)).2
              = (s.retain item.library).keepHandle label item := by simp [answer, hsource]
          rw [hkept]
          cases label with
          | none => exact .same _
          | some label => exact .copied hsource label
  | dropHandle label => exact .dropped label
  | provide offer label =>
      exact hsame ((handles_conclude _ (fun s => s.handles_keepProvider label) _).trans
        (s.sameShelves_supply offer).handles)
  | describe subject label =>
      exact hsame ((handles_conclude _ (fun s => s.handles_keepDescriptor label) _).trans
        (s.sameShelves_withSubject subject sameShelves_takeDescriptor).handles)
  | parse handle text label =>
      exact hsame (handles_conclude _ (fun s => s.handles_keepFinding label) _)
  | verify entry label =>
      exact hsame ((handles_conclude _ (fun s => s.handles_keepFinding label) _).trans
        (s.sameShelves_verify entry).handles)
  | copyDescriptor source label =>
      cases hsource : s.descriptors.get? source with
      | none => exact hsame (by simp [answer, hsource])
      | some item => exact hsame (by simp [answer, hsource, retain])
  | _ => exact hsame rfl

/-- One request keeps the handles sound: what it adds comes from a load, or is
there already. -/
theorem answer_handlesSound {s : Session} (h : s.HandlesSound) (request : Request) :
    (s.answer request).2.HandlesSound := by
  intro label item hitem
  have hstep := s.answer_handleStep request
  generalize (s.answer request).2.handles = handles at hstep hitem
  cases hstep with
  | same => exact h label item hitem
  | loaded _ hload kept =>
      by_cases hlabel : label = kept
      · obtain rfl : _ = item := by simpa [hlabel] using hitem
        exact Handle.sound_of_load hload
      · exact h label item (by simpa [hlabel] using hitem)
  | @copied source copy hsource kept =>
      by_cases hlabel : label = kept
      · obtain rfl : copy = item := by simpa [hlabel] using hitem
        exact h source copy hsource
      · exact h label item (by simpa [hlabel] using hitem)
  | dropped gone =>
      by_cases hlabel : label = gone
      · simp [hlabel] at hitem
      · exact h label item (by simpa [hlabel] using hitem)

/-- **A run of requests.**  Whatever is loaded, copied and let go, in any order
and in any surroundings, every handle that is kept is sound.  The induction is
on the requests, for any session to start with. -/
theorem answerAll_handlesSound {s : Session} (h : s.HandlesSound) (requests : List Request) :
    (s.answerAll requests).HandlesSound := by
  induction requests generalizing s with
  | nil => exact h
  | cons request rest ih => exact ih (answer_handlesSound h request)

/-- Nothing is kept at the start. -/
theorem start_handlesSound (w : World) : (start w).HandlesSound := by
  intro label item hitem
  simp [start] at hitem

/-- A handle that is had for a parse is kept, or comes from a load. -/
theorem sound_of_handle {s : Session} (h : s.HandlesSound) {label : Option String}
    {item : Sourced Handle} (hitem : s.handle label = .ok item) : item.value.Sound := by
  cases label with
  | none =>
      obtain ⟨handle, hload, rfl⟩ := map_eq_ok.mp hitem
      exact Handle.sound_of_load (mapError_eq_ok.mp hload)
  | some label =>
      unfold handle at hitem
      cases hkept : s.handles.get? label with
      | none => simp [hkept] at hitem
      | some kept =>
          obtain rfl : kept = item := by simpa [hkept] using hitem
          exact h label kept hkept

/-- **A parse in a session.**  If it has a handle, it fails for nothing but the
text. -/
theorem answer_parse_eq_error {s : Session} (h : s.HandlesSound) {label target : Option String}
    {text : String} {failure : Failure}
    (hanswer : (s.answer (.parse label text target)).1 = .error failure) :
    s.handle label = .error failure ∨ ∃ item reason, s.handle label = .ok item ∧
      failure = refusedGrammar (.parse item.value.name reason) := by
  have hparse : s.parse label text = .error failure :=
    map_eq_error.mp ((conclude_result _ _ _).symm.trans hanswer)
  unfold parse at hparse
  cases hitem : s.handle label with
  | error e => exact Or.inl (by simpa [hitem, bind, Except.bind] using hparse)
  | ok item =>
      have hsound := sound_of_handle h hitem
      cases hsample : (item.value.parseSample text).result with
      | ok summary => simp [hitem, hsample, bind, Except.bind, pure, Except.pure] at hparse
      | error e =>
          obtain ⟨reason, rfl⟩ := hsound.parseSample text e hsample
          refine Or.inr ⟨item, reason, rfl, ?_⟩
          simpa [hitem, hsample, bind, Except.bind, eq_comm] using hparse

/-- A handle is not had because a parser refuses the language: that which is
linked in is handed out without a failure. -/
theorem handle_ne_rejected (s : Session) (label : Option String) (grammar reason : String) :
    s.handle label ≠ .error (refusedGrammar (.rejected grammar reason)) := by
  intro h
  cases label with
  | none =>
      obtain ⟨e, hload, he⟩ := mapError_eq_error.mp (map_eq_error.mp h)
      obtain rfl : e = .rejected grammar reason := by simpa [refusedGrammar] using he
      have hdescriptor := (load_eq_rejected_iff _ _ _).mp hload
      simp [World.linkedProvider] at hdescriptor
  | some label =>
      unfold handle at h
      cases hkept : s.handles.get? label with
      | none => simp [hkept, refusedGrammar] at h
      | some kept => simp [hkept] at h

/-- **Every handle is sound.**  A load succeeds when its provider hands out a
language of a version from 13 to 15, and the handle is that language under the
provider's names; otherwise it fails for what the provider says, for a null
pointer, or for the version, in this order.  After any requests every handle
that is kept, and every one that a further load makes, is sound.  No load fails
because a parser refuses the language unless its provider says so, and a parse
that has a handle fails only for how the text parses, in the name of the
handle's grammar. -/
theorem loads_and_handles_sound :
    (∀ p : Provider,
      (∀ h, (load p).result = .ok h ↔
        ∃ language dynamic, p.descriptor = .ok ⟨some language, dynamic⟩ ∧
          (13 ≤ language.abiVersion ∧ language.abiVersion ≤ 15) ∧
          h = ⟨language, p.name, p.display, p.source⟩) ∧
      ∀ e, (load p).result = .error e ↔
        p.descriptor = .error e ∨
        (∃ dynamic, p.descriptor = .ok ⟨none, dynamic⟩ ∧ e = .absent p.display) ∨
        ∃ language dynamic, p.descriptor = .ok ⟨some language, dynamic⟩ ∧
          ¬ (13 ≤ language.abiVersion ∧ language.abiVersion ≤ 15) ∧
          e = .incompatibleVersion p.name language.abiVersion 13 15) ∧
    ∀ w requests, let s := (start w).answerAll requests
      (∀ label item, s.handles.get? label = some item → item.value.Sound) ∧
      (∀ subject label,
        (∀ a, (s.answer (.load subject label)).1 = .ok a ↔
          ∃ item h, s.StandsFor subject item ∧ (load item.value.provider).result = .ok h ∧
            h.Sound ∧ a = .loaded h) ∧
        ∀ grammar reason,
          (s.answer (.load subject label)).1
              = .error (.refused (.grammar (.rejected grammar reason))) ↔
            ∃ item, s.StandsFor subject item ∧
              item.value.provider.descriptor = .error (.rejected grammar reason)) ∧
      ∀ handle text label failure, (s.answer (.parse handle text label)).1 = .error failure →
        (∀ grammar reason, failure ≠ .refused (.grammar (.rejected grammar reason))) ∧
        (s.handle handle = .error failure ∨
          ∃ item reason, s.handle handle = .ok item ∧
            failure = .refused (.grammar (.parse item.value.name reason))) := by
  refine ⟨fun p => ⟨fun h => ?_, fun e => ?_⟩, fun w requests => ?_⟩
  · rw [load_eq_ok_iff]
    simp only [Language.isReadable_iff]
  · rw [load_eq_error_iff]
    simp only [← Language.isReadable_iff, Bool.not_eq_true]
    rfl
  · have hsound := answerAll_handlesSound (start_handlesSound w) requests
    refine ⟨hsound, fun subject label => ⟨fun a => ?_, fun grammar reason => ?_⟩, ?_⟩
    · rw [answer_load_eq_ok_iff]
      constructor
      · intro h
        obtain ⟨item, handle, hitem, hload, ha⟩ := h
        exact ⟨item, handle, hitem, hload, Handle.sound_of_load hload, ha⟩
      · intro h
        obtain ⟨item, handle, hitem, hload, -, ha⟩ := h
        exact ⟨item, handle, hitem, hload, ha⟩
    · exact answer_load_eq_rejected_iff _ subject label grammar reason
    · intro handle text label failure hanswer
      have hcause := answer_parse_eq_error hsound hanswer
      refine ⟨fun grammar reason hrejected => ?_, hcause⟩
      subst hrejected
      rcases hcause with h | ⟨item, reason', -, h⟩
      · exact handle_ne_rejected _ handle grammar reason h
      · cases h

end Session

end GrammarAudit
