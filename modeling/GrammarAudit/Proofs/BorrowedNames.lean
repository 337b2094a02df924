import GrammarAudit.Proofs.LibraryLifetime

/-!
# The names in a finding

A summary and a report have names of node kinds, which lie in the library of the language
that parsed the samples.  A finding holds no library, though; so its names can be read as
long as something else is kept that was made from the library, and after that no more, for
a library that is closed stays closed.  A check of a grammar from a library lets go all that
it opened before its report can be looked at.

* `Session.namesIn`, `Session.Readable`: the names in a finding, and that one can be read.
* `Pool.LeadsTo`: what can become of a pool.
* `Session.answer_leadsTo`, `Session.answerAll_leadsTo`: a library that is closed stays so.
* `Session.closed_after_verify`: the library that a check has opened is closed.
* `Session.names_readable_while_library_kept`: all of this, for every session.
-/

namespace GrammarAudit

/-- The names of node kinds in a summary. -/
def Summary.kindNames (s : Summary) : List String := s.rootKind :: s.statementKinds

namespace Pool

/-- What can become of a pool: more libraries are opened, and one that is closed stays so. -/
structure LeadsTo (p p' : Pool) : Prop where
  next_le : p.next ≤ p'.next
  closed : ∀ id, id < p.next → p.holdersOf id = 0 → p'.holdersOf id = 0

namespace LeadsTo

theorem refl (p : Pool) : p.LeadsTo p := ⟨Nat.le_refl _, fun _ _ h => h⟩

theorem trans {p p' p'' : Pool} (h : p.LeadsTo p') (h' : p'.LeadsTo p'') : p.LeadsTo p'' := by
  refine ⟨h.next_le.trans h'.next_le, fun id hid hclosed => ?_⟩
  exact h'.closed id (hid.trans_le h.next_le) (h.closed id hid hclosed)

end LeadsTo

theorem leadsTo_add (p : Pool) : p.LeadsTo p.add := by
  refine ⟨p.next_add ▸ Nat.le_succ _, fun id hid hclosed => ?_⟩
  rw [holdersOf_add, hclosed, share_of_ne]
  intro hnew
  have hsame : p.next = id := Option.some.inj hnew
  exact absurd hid (hsame ▸ Nat.lt_irrefl _)

theorem leadsTo_release (p : Pool) (library : Option LibraryId) :
    p.LeadsTo (p.release library) := by
  refine ⟨by rw [next_release], fun id _ hclosed => ?_⟩
  rw [holdersOf_release, hclosed, Nat.zero_sub]

/-- A library that gets one more holder has one already. -/
theorem leadsTo_retain {p : Pool} {library : Option LibraryId}
    (hheld : ∀ id, library = some id → 0 < p.holdersOf id) : p.LeadsTo (p.retain library) := by
  refine ⟨by rw [next_retain], fun id _ hclosed => ?_⟩
  rw [holdersOf_retain p hheld, hclosed, share_of_ne]
  intro hid
  have hpos := hheld id hid
  omega

end Pool

namespace Session

open Config (Entry ConfigError)

/-- The names of node kinds in a finding. -/
def Finding.kindNames : Finding → List String
  | .summary s => s.kindNames
  | .report r => r.samples.flatMap fun (_, s) => s.kindNames

/-- The names in a finding, each with the library that it lies in. -/
def namesIn (item : Sourced Finding) : List (Sourced String) :=
  item.value.kindNames.map fun name => ⟨name, item.library⟩

/-- A name can be read: if it lies in a library, that is open. -/
def Readable (s : Session) (name : Sourced String) : Prop :=
  ∀ id, name.library = some id → s.pool.isOpen id = true

/-- Something that was made from the library, and holds it, is kept. -/
def Keeps (s : Session) (id : LibraryId) : Prop :=
  (∃ label item, s.providers.get? label = some item ∧ item.library = some id) ∨
  (∃ label item, s.descriptors.get? label = some item ∧ item.library = some id) ∨
  ∃ label item, s.handles.get? label = some item ∧ item.library = some id

/-! ## A library that is closed stays closed -/

section LeadsTo

variable {s : Session} {inUse : List (Option LibraryId)}

theorem adopt_leadsTo (s : Session) (opened : Except Failure SharedLibrary) :
    s.pool.LeadsTo (s.adopt opened).2.pool := by
  cases opened with
  | error e => exact .refl _
  | ok library => exact s.pool.leadsTo_add

theorem supply_leadsTo (s : Session) (offer : Offer) :
    s.pool.LeadsTo (s.supply offer).2.pool := by
  cases offer with
  | linked => exact .refl _
  | given provider => exact .refl _
  | library name display path => exact s.adopt_leadsTo _
  | discovered name display => exact s.adopt_leadsTo _
  | configured entry =>
      cases hsource : entry.source with
      | library path =>
          simp only [supply, hsource]
          exact s.adopt_leadsTo _
      | builtin =>
          simp only [supply, hsource]
          exact .refl _

theorem takeDescriptor_leadsTo {item : Sourced Supplier} (hheld : s.Held item.library) :
    s.pool.LeadsTo (s.takeDescriptor item).2.pool := by
  unfold takeDescriptor
  cases item.value.provider.descriptor with
  | error e => exact .refl _
  | ok descriptor => exact Pool.leadsTo_retain hheld

theorem takeHandle_leadsTo {item : Sourced Supplier} (h : s.Balanced inUse)
    (hheld : s.Held item.library) : s.pool.LeadsTo (s.takeHandle item).2.pool := by
  have hdescribed := takeDescriptor_leadsTo hheld
  have haccounted := takeDescriptor_accounted h hheld
  unfold takeHandle
  generalize s.takeDescriptor item = taken at hdescribed haccounted ⊢
  obtain ⟨result, described⟩ := taken
  cases result with
  | error e => exact hdescribed
  | ok descriptor =>
      have hused : described.Balanced (descriptor.library :: inUse) := haccounted
      cases (load item.value.provider).result with
      | error e => exact hdescribed.trans (Pool.leadsTo_release _ _)
      | ok handle =>
          have hretained := Pool.leadsTo_retain hused.held_of_inUse
          exact (hdescribed.trans hretained).trans (Pool.leadsTo_release _ _)

theorem withSubject_leadsTo {α : Type} (h : s.Balanced inUse) (subject : Subject)
    {use : Session → Sourced Supplier → Except Failure (Sourced α) × Session}
    (huse : ∀ (s : Session) (inUse : List (Option LibraryId)) (item : Sourced Supplier),
      s.Balanced inUse → s.Held item.library → s.pool.LeadsTo (use s item).2.pool) :
    s.pool.LeadsTo (s.withSubject subject use).2.pool := by
  cases subject with
  | kept label =>
      cases hkept : s.providers.get? label with
      | none =>
          simp only [withSubject, hkept]
          exact .refl _
      | some item =>
          simp only [withSubject, hkept]
          exact huse s inUse item h (h.held_of_provider hkept)
  | offered offer =>
      have hsupplied := s.supply_leadsTo offer
      have haccounted := supply_accounted h offer
      simp only [withSubject]
      generalize s.supply offer = had at hsupplied haccounted ⊢
      obtain ⟨result, supplied⟩ := had
      cases result with
      | error e => exact hsupplied
      | ok item =>
          have hitem : supplied.Balanced (item.library :: inUse) := haccounted
          have hused := huse supplied _ item hitem hitem.held_of_inUse
          exact (hsupplied.trans hused).trans (Pool.leadsTo_release _ _)

/-- After a check has what it needs, it only lets go. -/
theorem verify_leadsTo_of_supply (h : s.Balanced inUse) (entry : Entry) :
    (s.supply (.configured entry)).2.pool.LeadsTo (s.verify entry).2.pool := by
  have haccounted := supply_accounted h (.configured entry)
  unfold verify
  generalize s.supply (.configured entry) = had at haccounted ⊢
  obtain ⟨result, supplied⟩ := had
  cases result with
  | error e => exact .refl _
  | ok item =>
      have hitem : supplied.Balanced (item.library :: inUse) := haccounted
      have htaken := takeHandle_leadsTo hitem hitem.held_of_inUse
      simp only
      generalize supplied.takeHandle item = taken at htaken ⊢
      obtain ⟨loaded, used⟩ := taken
      cases loaded with
      | error e => exact htaken.trans (Pool.leadsTo_release _ _)
      | ok handle =>
          exact (htaken.trans (Pool.leadsTo_release _ _)).trans (Pool.leadsTo_release _ _)

theorem conclude_leadsTo {α : Type} {result : Except Failure (Sourced α) × Session}
    (h : s.pool.LeadsTo result.2.pool) {keep : Session → Sourced α → Session}
    (hkeep : ∀ (s : Session) (item : Sourced α), s.pool.LeadsTo (keep s item).pool)
    (tell : α → Answer) : s.pool.LeadsTo (conclude result keep tell).2.pool := by
  obtain ⟨outcome, s'⟩ := result
  cases outcome with
  | error e => exact h
  | ok item => exact h.trans (hkeep s' item)

theorem keepProvider_leadsTo (s : Session) (label : Option String) (item : Sourced Supplier) :
    s.pool.LeadsTo (s.keepProvider label item).pool := by
  cases label with
  | none => exact Pool.leadsTo_release _ _
  | some label => exact Pool.leadsTo_release _ _

theorem keepDescriptor_leadsTo (s : Session) (label : Option String)
    (item : Sourced Descriptor) : s.pool.LeadsTo (s.keepDescriptor label item).pool := by
  cases label with
  | none => exact Pool.leadsTo_release _ _
  | some label => exact Pool.leadsTo_release _ _

theorem keepHandle_leadsTo (s : Session) (label : Option String) (item : Sourced Handle) :
    s.pool.LeadsTo (s.keepHandle label item).pool := by
  cases label with
  | none => exact Pool.leadsTo_release _ _
  | some label => exact Pool.leadsTo_release _ _

theorem pool_keepFinding (s : Session) (label : Option String) (item : Sourced Finding) :
    (s.keepFinding label item).pool = s.pool := by
  cases label with
  | none => rfl
  | some label => rfl

theorem keepFinding_leadsTo (s : Session) (label : Option String) (item : Sourced Finding) :
    s.pool.LeadsTo (s.keepFinding label item).pool := by
  rw [pool_keepFinding]
  exact .refl _

/-- **One request.**  A library that is closed stays so. -/
theorem answer_leadsTo (h : s.Balanced []) (request : Request) :
    s.pool.LeadsTo (s.answer request).2.pool := by
  cases request with
  | setVariable name value => exact .refl _
  | unsetVariable name => exact .refl _
  | writeFile path content => exact .refl _
  | makeDirectory path => exact .refl _
  | remove path => exact .refl _
  | provide offer label =>
      exact conclude_leadsTo (s.supply_leadsTo offer) (keepProvider_leadsTo · label ·) _
  | describe subject label =>
      have htaken := withSubject_leadsTo h subject fun _ _ _ _ => takeDescriptor_leadsTo
      exact conclude_leadsTo htaken (keepDescriptor_leadsTo · label ·) _
  | load subject label =>
      have htaken := withSubject_leadsTo h subject fun _ _ _ => takeHandle_leadsTo
      exact conclude_leadsTo htaken (keepHandle_leadsTo · label ·) _
  | parse handle text label =>
      have hsame : s.pool.LeadsTo (s.parse handle text, s).2.pool := .refl _
      exact conclude_leadsTo hsame (keepFinding_leadsTo · label ·) _
  | verify entry label =>
      have hchecked := (s.supply_leadsTo _).trans (verify_leadsTo_of_supply h entry)
      exact conclude_leadsTo hchecked (keepFinding_leadsTo · label ·) _
  | copyDescriptor source label =>
      cases hsource : s.descriptors.get? source with
      | none =>
          simp only [answer, hsource]
          exact .refl _
      | some item =>
          simp only [answer, hsource]
          have hretained := Pool.leadsTo_retain (h.held_of_descriptor hsource)
          exact hretained.trans (keepDescriptor_leadsTo (s.retain item.library) label item)
  | copyHandle source label =>
      cases hsource : s.handles.get? source with
      | none =>
          simp only [answer, hsource]
          exact .refl _
      | some item =>
          simp only [answer, hsource]
          have hretained := Pool.leadsTo_retain (h.held_of_handle hsource)
          exact hretained.trans (keepHandle_leadsTo (s.retain item.library) label item)
  | dropProvider label => exact Pool.leadsTo_release _ _
  | dropDescriptor label => exact Pool.leadsTo_release _ _
  | dropHandle label => exact Pool.leadsTo_release _ _
  | dropFinding label => exact .refl _

/-- **A run of requests.**  The induction is on the requests, for any session to start
with. -/
theorem answerAll_leadsTo (h : s.Balanced []) (requests : List Request) :
    s.pool.LeadsTo (s.answerAll requests).pool := by
  induction requests generalizing s with
  | nil => exact .refl _
  | cons request rest ih => exact (answer_leadsTo h request).trans (ih (answer_balanced h request))

end LeadsTo

/-! ## Where the names in a finding lie -/

/-- The names of a summary lie in the library of the handle that parsed its text. -/
theorem parse_eq_ok {s : Session} {handle : Option String} {text : String}
    {item : Sourced Finding} (h : s.parse handle text = .ok item) :
    ∃ source, s.handle handle = .ok source ∧ item.library = source.library := by
  unfold parse at h
  cases hsource : s.handle handle with
  | error e => simp [hsource, bind, Except.bind] at h
  | ok source =>
      refine ⟨source, rfl, ?_⟩
      have hsummary : ((source.value.parseSample text).result.mapError refusedGrammar).bind
          (fun summary => .ok ⟨.summary summary, source.library⟩) = .ok item := by
        rw [hsource] at h
        exact h
      cases hparse : (source.value.parseSample text).result.mapError refusedGrammar with
      | error e => simp [hparse, Except.bind] at hsummary
      | ok summary =>
          rw [hparse] at hsummary
          obtain rfl := Except.ok.inj hsummary
          rfl

/-- A handle that parses is kept, or its language is linked in. -/
theorem handle_eq_ok {s : Session} {handle : Option String} {source : Sourced Handle}
    (h : s.handle handle = .ok source) :
    source.library = none ∨ ∃ label, s.handles.get? label = some source := by
  unfold Session.handle at h
  cases handle with
  | none =>
      obtain ⟨linked, -, rfl⟩ := map_eq_ok.mp h
      exact .inl rfl
  | some label =>
      cases hkept : s.handles.get? label with
      | none => simp [hkept] at h
      | some kept =>
          obtain rfl : kept = source := by simpa [hkept] using h
          exact .inr ⟨label, hkept⟩

/-- The names of a report lie in the library that was opened for the check. -/
theorem verify_eq_ok {s : Session} {entry : Entry} {item : Sourced Finding}
    (h : (s.verify entry).1 = .ok item) :
    ∃ supplier, (s.supply (.configured entry)).1 = .ok supplier ∧
      item.library = supplier.library := by
  unfold verify at h
  generalize s.supply (.configured entry) = had at h ⊢
  obtain ⟨result, supplied⟩ := had
  cases result with
  | error e => cases h
  | ok supplier =>
      obtain ⟨report, -, rfl⟩ := map_eq_ok.mp h
      exact ⟨supplier, rfl, rfl⟩

/-- A check of a grammar that is linked in opens no library. -/
theorem supply_of_builtin {s : Session} {entry : Entry} (hsource : entry.source = .builtin)
    {supplier : Sourced Supplier} (h : (s.supply (.configured entry)).1 = .ok supplier) :
    supplier.library = none := by
  simp only [supply, hsource] at h
  obtain ⟨provider, -, rfl⟩ := map_eq_ok.mp h
  rfl

/-- A check of a grammar from a library opens one. -/
theorem supply_of_library {s : Session} {entry : Entry} {path : Path}
    (hsource : entry.source = .library path) {supplier : Sourced Supplier}
    (h : (s.supply (.configured entry)).1 = .ok supplier) :
    supplier.library = some s.pool.next ∧
      (s.supply (.configured entry)).2.pool = s.pool.add := by
  simp only [supply, hsource] at h ⊢
  generalize (entry.openLibrary s.world path).result.mapError Failure.refused = opened at h ⊢
  cases opened with
  | error e => cases h
  | ok library =>
      obtain rfl := Except.ok.inj h
      exact ⟨rfl, rfl⟩

/-- **After a check.**  The library that was opened for it is closed, and is never open
again. -/
theorem closed_after_verify {s : Session} (h : s.Balanced []) {entry : Entry} {path : Path}
    (hsource : entry.source = .library path) {item : Sourced Finding}
    (hverify : (s.verify entry).1 = .ok item) (label : Option String) (later : List Request) :
    item.library = some s.pool.next ∧
      ((s.answer (.verify entry label)).2.answerAll later).pool.isOpen s.pool.next = false := by
  obtain ⟨supplier, hsupply, hlibrary⟩ := verify_eq_ok hverify
  obtain ⟨hnew, hadd⟩ := supply_of_library hsource hsupply
  refine ⟨hlibrary.trans hnew, ?_⟩
  have hpool : (s.answer (.verify entry label)).2.pool = (s.verify entry).2.pool :=
    conclude_frame pool (s.verify entry) (fun s item => s.pool_keepFinding label item) _
  have hopened : s.pool.next < (s.verify entry).2.pool.next := by
    have hnext := (verify_leadsTo_of_supply h entry).next_le
    rw [hadd, Pool.next_add] at hnext
    exact hnext
  -- nothing that is kept was made from the library, so its only holder was in use
  have hclosed : (s.verify entry).2.pool.holdersOf s.pool.next = 0 := by
    have hshelves := s.sameShelves_verify entry
    have hafter := (verify_balanced h entry).holders s.pool.next
    have hbefore := h.holders s.pool.next
    have hnone : s.pool.holdersOf s.pool.next = 0 := Pool.holdersOf_eq_zero (Nat.le_refl _)
    rw [hafter, kept, hshelves.providers, hshelves.descriptors, hshelves.handles]
    exact hbefore.symm.trans hnone
  have hlater := answerAll_leadsTo (answer_balanced h (.verify entry label)) later
  rw [hpool] at hlater
  rw [Pool.isOpen, hlater.closed s.pool.next hopened hclosed]
  rfl

/-- A request that keeps a finding under a label. -/
inductive FoundBy (s : Session) (item : Sourced Finding) : Request → Prop
  | parse {handle : Option String} {text label : String} (h : s.parse handle text = .ok item) :
      FoundBy s item (.parse handle text (some label))
  | verify {entry : Entry} {label : String} (h : (s.verify entry).1 = .ok item) :
      FoundBy s item (.verify entry (some label))

/-- What is kept under a label after a parse or a check was kept before, or is what was
found. -/
theorem findings_conclude {result : Except Failure (Sourced Finding) × Session}
    {label : Option String} {tell : Finding → Answer} {other : String} {item : Sourced Finding}
    (hkept : (conclude result (·.keepFinding label ·) tell).2.findings.get? other = some item) :
    result.2.findings.get? other = some item ∨ result.1 = .ok item ∧ label = some other := by
  obtain ⟨outcome, s⟩ := result
  cases outcome with
  | error e => exact .inl hkept
  | ok found =>
      cases label with
      | none => exact .inl hkept
      | some first =>
          have hput : (s.findings.put first found).get? other = some item := hkept
          rw [Shelf.get?_put] at hput
          by_cases hother : other = first
          · rw [if_pos hother] at hput
            exact .inr ⟨congrArg _ (Option.some.inj hput), congrArg _ hother.symm⟩
          · rw [if_neg hother] at hput
            exact .inl hput

/-- **One request.**  A finding that is kept afterwards was kept before, or the request found
it. -/
theorem answer_findings {s : Session} {request : Request} {label : String}
    {item : Sourced Finding} (hkept : (s.answer request).2.findings.get? label = some item) :
    s.findings.get? label = some item ∨ s.FoundBy item request := by
  have hsame : (s.answer request).2.findings = s.findings → s.findings.get? label = some item :=
    fun hfindings => hfindings ▸ hkept
  cases request with
  | provide offer first =>
      have hused := s.sameShelves_supply offer
      refine .inl (hsame ((conclude_frame findings _ ?_ _).trans hused.findings))
      intro s item
      cases first <;> rfl
  | describe subject first =>
      have hused := s.sameShelves_withSubject subject sameShelves_takeDescriptor
      refine .inl (hsame ((conclude_frame findings _ ?_ _).trans hused.findings))
      intro s item
      cases first <;> rfl
  | load subject first =>
      have hused := s.sameShelves_withSubject subject sameShelves_takeHandle
      refine .inl (hsame ((conclude_frame findings _ ?_ _).trans hused.findings))
      intro s item
      cases first <;> rfl
  | parse handle text first =>
      rcases findings_conclude hkept with hbefore | ⟨hfound, rfl⟩
      · exact .inl hbefore
      · exact .inr (.parse hfound)
  | verify entry first =>
      rcases findings_conclude hkept with hbefore | ⟨hfound, rfl⟩
      · exact .inl ((s.sameShelves_verify entry).findings ▸ hbefore)
      · exact .inr (.verify hfound)
  | copyDescriptor source copy =>
      refine .inl (hsame ?_)
      cases hsource : s.descriptors.get? source with
      | none => simp only [answer, hsource]
      | some item =>
          simp only [answer, hsource]
          cases copy <;> rfl
  | copyHandle source copy =>
      refine .inl (hsame ?_)
      cases hsource : s.handles.get? source with
      | none => simp only [answer, hsource]
      | some item =>
          simp only [answer, hsource]
          cases copy <;> rfl
  | dropFinding gone =>
      have hdrop : (s.findings.drop gone).get? label = some item := hkept
      rw [Shelf.get?_drop] at hdrop
      by_cases hlabel : label = gone
      · simp [hlabel] at hdrop
      · exact .inl (by simpa [hlabel] using hdrop)
  | _ => exact .inl (hsame rfl)

/-- **Where findings come from.**  Every kept finding was found by one of the requests.  The
induction is on the requests, the last one first. -/
theorem exists_foundBy_of_kept {s : Session} (hnone : ∀ label, s.findings.get? label = none)
    (requests : List Request) {label : String} {item : Sourced Finding}
    (hkept : (s.answerAll requests).findings.get? label = some item) :
    ∃ before request later, requests = before ++ request :: later ∧
      (s.answerAll before).FoundBy item request := by
  induction requests using List.reverseRecOn generalizing label with
  | nil => simp [answerAll, hnone] at hkept
  | append_singleton earlier request ih =>
      rw [answerAll_append] at hkept
      rcases answer_findings hkept with hearlier | hfound
      · obtain ⟨before, found, later, rfl, hfound⟩ := ih hearlier
        exact ⟨before, found, later ++ [request], by simp, hfound⟩
      · exact ⟨earlier, request, [], rfl, hfound⟩

/-- The names in a finding can be read exactly if there are none, or they lie in no library,
or something else that was made from the library is kept. -/
theorem Balanced.readable_iff {s : Session} (h : s.Balanced []) (item : Sourced Finding) :
    (∀ name ∈ namesIn item, s.Readable name) ↔
      item.value.kindNames = [] ∨ item.library = none ∨
        ∃ id, item.library = some id ∧ s.Keeps id := by
  have hnames : (∀ name ∈ namesIn item, s.Readable name) ↔
      item.value.kindNames = [] ∨ ∀ id, item.library = some id → s.pool.isOpen id = true := by
    unfold namesIn Readable
    cases item.value.kindNames with
    | nil => simp
    | cons name rest =>
        constructor
        · intro hall
          exact .inr (hall ⟨name, item.library⟩ List.mem_cons_self)
        · rintro (hnone | hopen) other hother
          · cases hnone
          · obtain ⟨_, -, rfl⟩ := List.mem_map.mp hother
            exact hopen
  rw [hnames]
  cases item.library with
  | none => simp
  | some id => simp [Keeps, h.isOpen_iff]

/-- The names in a summary can be read when it is made. -/
theorem readable_of_parse {s : Session} (h : s.Balanced []) {handle : Option String}
    {text : String} {item : Sourced Finding} (hparse : s.parse handle text = .ok item) :
    ∀ name ∈ namesIn item, s.Readable name := by
  refine (h.readable_iff item).mpr (.inr ?_)
  obtain ⟨source, hsource, hlibrary⟩ := parse_eq_ok hparse
  rw [hlibrary]
  rcases handle_eq_ok hsource with hnone | ⟨label, hkept⟩
  · exact .inl hnone
  · cases hmade : source.library with
    | none => exact .inl rfl
    | some id => exact .inr ⟨id, rfl, .inr (.inr ⟨label, source, hkept, hmade⟩)⟩

/-- **Names in findings.**  After any requests the names in a finding that is kept can be read
exactly if there are none, or they lie in no library, or something else that was made from
their library is kept.  The finding is what a parse or a check among the requests has found.
The names of a parse lie in the library of the handle, and can be read when the parse is done.
Those of a check lie in none if the grammar is linked in; if it is from a library, they lie in
the one that was opened for the check, and that is closed. -/
theorem names_readable_while_library_kept (w : World) (requests : List Request) :
    let s := (start w).answerAll requests
    ∀ label item, s.findings.get? label = some item →
      ((∀ name ∈ namesIn item, s.Readable name) ↔ item.value.kindNames = [] ∨
        item.library = none ∨ ∃ id, item.library = some id ∧ s.Keeps id) ∧
      ∃ before request later, requests = before ++ request :: later ∧
        ((∃ handle text first source, request = .parse handle text (some first) ∧
            ((start w).answerAll before).handle handle = .ok source ∧
            item.library = source.library ∧
            ∀ name ∈ namesIn item, ((start w).answerAll before).Readable name) ∨
          ∃ entry first, request = .verify entry (some first) ∧
            (entry.source = .builtin → item.library = none) ∧
            ∀ path, entry.source = .library path →
              ∃ id, item.library = some id ∧ s.pool.isOpen id = false) := by
  intro s label item hkept
  have hbalanced : ∀ requests, ((start w).answerAll requests).Balanced [] :=
    answerAll_balanced (start_balanced w)
  refine ⟨(hbalanced requests).readable_iff item, ?_⟩
  obtain ⟨before, request, later, rfl, hfound⟩ :=
    exists_foundBy_of_kept (fun _ => rfl) requests hkept
  refine ⟨before, request, later, rfl, ?_⟩
  cases hfound with
  | @parse handle text first hparse =>
      obtain ⟨source, hsource, hlibrary⟩ := parse_eq_ok hparse
      exact .inl ⟨handle, text, first, source, rfl, hsource, hlibrary,
        readable_of_parse (hbalanced before) hparse⟩
  | @verify entry first hverify =>
      refine .inr ⟨entry, first, rfl, fun hbuiltin => ?_, fun path hlibrary => ?_⟩
      · obtain ⟨supplier, hsupply, hsame⟩ := verify_eq_ok hverify
        exact hsame.trans (supply_of_builtin hbuiltin hsupply)
      · obtain ⟨hitem, hclosed⟩ :=
          closed_after_verify (hbalanced before) hlibrary hverify (some first) later
        refine ⟨_, hitem, ?_⟩
        show ((start w).answerAll (before ++ _ :: later)).pool.isOpen _ = false
        rw [answerAll_append]
        exact hclosed

/-- A summary whose names lie in a library, which the handle that is kept holds open. -/
theorem summary_readable_beside_handle :
    let label (kind : String) : Label := ⟨kind, true, false, false, false, ⟨0, 0⟩, ⟨0, 0⟩⟩
    let tree : Tree := .node (label "stylesheet") [.node (label "if_statement") []]
    let language : Language := ⟨14, [], fun _ => some tree⟩
    let library : Node := .file (.library ⟨[("tree_sitter_scss", some language)]⟩)
    let w : World := {
      files := ⟨.directory [("libscss.so", library)], [], []⟩
      environment := ⟨[]⟩
      linked := language }
    let s := (start w).answerAll
      [.load (.offered (.library "scss" "SCSS" ⟨"/libscss.so"⟩)) (some "h"),
        .parse (some "h") "" (some "p")]
    ∃ item, s.findings.get? "p" = some item ∧
      namesIn item = [⟨"stylesheet", some 0⟩, ⟨"if_statement", some 0⟩] ∧
      ∀ name ∈ namesIn item, s.Readable name := by
  intro label tree language library w s
  have hnames : (s.findings.get? "p").map (fun item => (item.value.kindNames, item.library))
      = some (["stylesheet", "if_statement"], some 0) := by decide +kernel
  have hhandle : (s.handles.get? "h").map Sourced.library = some (some 0) := by decide +kernel
  obtain ⟨item, hkept, hitem⟩ := Option.map_eq_some_iff.mp hnames
  obtain ⟨hkinds, hlibrary⟩ := Prod.mk.inj hitem
  obtain ⟨handle, hhandle, hmade⟩ := Option.map_eq_some_iff.mp hhandle
  refine ⟨item, hkept, by rw [namesIn, hkinds, hlibrary]; rfl, ?_⟩
  obtain ⟨hreadable, -⟩ := names_readable_while_library_kept w _ "p" item hkept
  exact hreadable.mpr (.inr (.inr ⟨0, hlibrary, .inr (.inr ⟨"h", handle, hhandle, hmade⟩)⟩))

/-- A check of a grammar from a library keeps a report whose names cannot be read. -/
theorem report_outlives_library :
    let label (kind : String) : Label := ⟨kind, true, false, false, false, ⟨0, 0⟩, ⟨0, 0⟩⟩
    let tree : Tree := .node (label "stylesheet") [.node (label "if_statement") []]
    let language : Language := ⟨14, [], fun _ => some tree⟩
    let library : Node := .file (.library ⟨[("tree_sitter_scss", some language)]⟩)
    let w : World := {
      files := ⟨.directory [("libscss.so", library)], [], []⟩
      environment := ⟨[]⟩
      linked := language }
    let entry : Entry := ⟨"scss", none, .library ⟨"/libscss.so"⟩, some [], []⟩
    let s := (start w).answerAll [.verify entry (some "r")]
    ¬ ∀ label item, s.findings.get? label = some item → ∀ name ∈ namesIn item, s.Readable name := by
  intro label tree language library w entry s hall
  have hnames : (s.findings.get? "r").map (fun item => (item.value.kindNames, item.library))
      = some (["stylesheet", "if_statement"], some 0) := by decide +kernel
  have hclosed : s.pool.isOpen 0 = false := by decide +kernel
  obtain ⟨item, hkept, hitem⟩ := Option.map_eq_some_iff.mp hnames
  obtain ⟨hkinds, hlibrary⟩ := Prod.mk.inj hitem
  have hmem : ⟨"stylesheet", some 0⟩ ∈ namesIn item := by simp [namesIn, hkinds, hlibrary]
  have hopen : s.pool.isOpen 0 = true := hall "r" item hkept _ hmem 0 rfl
  rw [hclosed] at hopen
  cases hopen

end Session

end GrammarAudit
