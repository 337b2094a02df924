import Mathlib
import GrammarAudit.Proofs.HandleSoundness

/-!
# A library is open while something made from it is kept

The pool counts the holders of a library, and the shelves keep what was made from
it.  While a request is done there may be more holders than kept values: a
descriptor during a load, a provider that is had for one request only.  So the
count is balanced against the kept values and a list of what is in use besides;
every operation of a session moves one entry of that list, and between two
requests the list is empty.

* `Session.Balanced`: the holders of every library are the kept values made from
  it and those in use.
* `Session.answer_balanced`, `Session.answerAll_balanced`: one request keeps the
  balance, and so do any.
* `Session.answer_load_error`: a load that fails leaves all holders as they were.
* `Session.exists_load_of_kept`: every kept handle is what a load has made.
* `Session.library_open_while_held`: all of this, for every session.
-/

namespace GrammarAudit

namespace Shelf

variable {α : Type}

/-- No label stands on the shelf twice. -/
def Labelled (shelf : Shelf α) : Prop := (shelf.items.map Prod.fst).Nodup

/-- The number of values on the shelf that were made from a library. -/
def madeFrom (shelf : Shelf α) (id : LibraryId) : Nat :=
  shelf.items.countP fun entry => entry.2.library == some id

theorem labelled_empty : (empty : Shelf α).Labelled := List.nodup_nil

theorem Labelled.drop {shelf : Shelf α} (h : shelf.Labelled) (label : String) :
    (shelf.drop label).Labelled :=
  h.sublist (List.filter_sublist.map _)

theorem Labelled.put {shelf : Shelf α} (h : shelf.Labelled) (label : String) (item : Sourced α) :
    (shelf.put label item).Labelled := by
  refine List.nodup_cons.mpr ⟨?_, h.drop label⟩
  simp [Shelf.drop]

/-- What is dropped is the one value under the label. -/
theorem madeFrom_drop {shelf : Shelf α} (h : shelf.Labelled) (label : String) (id : LibraryId) :
    (shelf.drop label).madeFrom id + Pool.share (shelf.libraryOf label) id = shelf.madeFrom id := by
  obtain ⟨items⟩ := shelf
  unfold Labelled at h
  unfold madeFrom Shelf.drop libraryOf get?
  induction items with
  | nil => simp
  | cons entry rest ih =>
      obtain ⟨key, item⟩ := entry
      obtain ⟨hkey, hrest⟩ := List.nodup_cons.mp h
      rw [lookup_cons_eq_ite, List.countP_cons]
      by_cases hlabel : label = key
      · subst hlabel
        have hkept : rest.filter (·.1 != label) = rest := by
          rw [List.filter_eq_self]
          intro other hother
          have hne : other.1 ≠ label := by
            intro heq
            apply hkey
            rw [← heq]
            exact List.mem_map.mpr ⟨other, hother, rfl⟩
          simpa using hne
        simp [hkept, Pool.share]
      · have hne : key ≠ label := fun heq => hlabel heq.symm
        have hcons : ((key, item) :: rest).filter (·.1 != label)
            = (key, item) :: rest.filter (·.1 != label) := by simp [hne]
        have htail := ih hrest
        simp only at htail
        rw [hcons, List.countP_cons, if_neg hlabel]
        omega

theorem madeFrom_put {shelf : Shelf α} (h : shelf.Labelled) (label : String) (item : Sourced α)
    (id : LibraryId) :
    (shelf.put label item).madeFrom id + Pool.share (shelf.libraryOf label) id
      = shelf.madeFrom id + Pool.share item.library id := by
  have hput : (shelf.put label item).madeFrom id
      = (shelf.drop label).madeFrom id + Pool.share item.library id := by
    simp [madeFrom, Shelf.put, List.countP_cons, Pool.share]
  have hdrop := madeFrom_drop h label id
  omega

/-- What is counted is found under a label, and the other way round. -/
theorem madeFrom_pos_iff {shelf : Shelf α} (h : shelf.Labelled) (id : LibraryId) :
    0 < shelf.madeFrom id ↔
      ∃ label item, shelf.get? label = some item ∧ item.library = some id := by
  obtain ⟨items⟩ := shelf
  unfold Labelled at h
  unfold madeFrom get?
  induction items with
  | nil => simp
  | cons entry rest ih =>
      obtain ⟨key, item⟩ := entry
      obtain ⟨hkey, hrest⟩ := List.nodup_cons.mp h
      have htail := ih hrest
      simp only at htail
      simp only [List.countP_cons, lookup_cons_eq_ite, beq_iff_eq]
      by_cases hitem : item.library = some id
      · simp only [hitem, if_true]
        exact ⟨fun _ => ⟨key, item, by simp, hitem⟩, fun _ => by omega⟩
      · simp only [hitem, if_false, Nat.add_zero, htail]
        constructor
        · intro hfound
          obtain ⟨label, other, hother, hlibrary⟩ := hfound
          have hne : label ≠ key := by
            rintro rfl
            obtain ⟨before, after, rfl, -⟩ := List.lookup_eq_some_iff.mp hother
            simp at hkey
          exact ⟨label, other, by simp [hne, hother], hlibrary⟩
        · intro hfound
          obtain ⟨label, other, hother, hlibrary⟩ := hfound
          by_cases hlabel : label = key
          · obtain rfl : item = other := by simpa [hlabel] using hother
            exact absurd hlibrary hitem
          · exact ⟨label, other, by simpa [hlabel] using hother, hlibrary⟩

end Shelf

namespace Session

open Config (Entry ConfigError)

/-- The number of kept values that were made from a library. -/
def kept (s : Session) (id : LibraryId) : Nat :=
  s.providers.madeFrom id + s.descriptors.madeFrom id + s.handles.madeFrom id

/-- The holders of every library are the kept values that were made from it and,
besides, those in use. -/
structure Balanced (s : Session) (inUse : List (Option LibraryId)) : Prop where
  providers : s.providers.Labelled
  descriptors : s.descriptors.Labelled
  handles : s.handles.Labelled
  holders : ∀ id, s.pool.holdersOf id = s.kept id + (inUse.map (Pool.share · id)).sum

/-- The outcome of an operation is balanced: what it gives is in use. -/
def Accounted {α : Type} (inUse : List (Option LibraryId)) :
    Except Failure (Sourced α) × Session → Prop
  | (.ok item, s) => s.Balanced (item.library :: inUse)
  | (.error _, s) => s.Balanced inUse

/-- A value made from a library can be used: the library has a holder. -/
def Held (s : Session) (library : Option LibraryId) : Prop :=
  ∀ id, library = some id → 0 < s.pool.holdersOf id

section Balance

variable {s : Session} {inUse : List (Option LibraryId)} {library : Option LibraryId}

namespace Balanced

/-- Values that are kept under new labels, or no longer, are in use instead. -/
theorem of_kept (h : s.Balanced inUse) {s' : Session} {inUse' : List (Option LibraryId)}
    (hpool : s'.pool = s.pool) (hproviders : s'.providers.Labelled)
    (hdescriptors : s'.descriptors.Labelled) (hhandles : s'.handles.Labelled)
    (hkept : ∀ id, s'.kept id + (inUse'.map (Pool.share · id)).sum
      = s.kept id + (inUse.map (Pool.share · id)).sum) : s'.Balanced inUse' := by
  refine ⟨hproviders, hdescriptors, hhandles, fun id => ?_⟩
  rw [hpool, h.holders id, hkept id]

theorem swap {first second : Option LibraryId} (h : s.Balanced (first :: second :: inUse)) :
    s.Balanced (second :: first :: inUse) := by
  refine h.of_kept rfl h.providers h.descriptors h.handles fun id => ?_
  simp only [List.map_cons, List.sum_cons]
  omega

theorem held_of_inUse (h : s.Balanced (library :: inUse)) : s.Held library := by
  rintro id rfl
  rw [h.holders id, List.map_cons, List.sum_cons, Pool.share_some_self]
  omega

theorem held_of_provider (h : s.Balanced inUse) {label : String} {item : Sourced Supplier}
    (hkept : s.providers.get? label = some item) : s.Held item.library := by
  intro id hlibrary
  have hpos := (Shelf.madeFrom_pos_iff h.providers id).mpr ⟨label, item, hkept, hlibrary⟩
  rw [h.holders id, kept]
  omega

theorem held_of_descriptor (h : s.Balanced inUse) {label : String} {item : Sourced Descriptor}
    (hkept : s.descriptors.get? label = some item) : s.Held item.library := by
  intro id hlibrary
  have hpos := (Shelf.madeFrom_pos_iff h.descriptors id).mpr ⟨label, item, hkept, hlibrary⟩
  rw [h.holders id, kept]
  omega

theorem held_of_handle (h : s.Balanced inUse) {label : String} {item : Sourced Handle}
    (hkept : s.handles.get? label = some item) : s.Held item.library := by
  intro id hlibrary
  have hpos := (Shelf.madeFrom_pos_iff h.handles id).mpr ⟨label, item, hkept, hlibrary⟩
  rw [h.holders id, kept]
  omega

/-- A new holder of a library that has one. -/
theorem retain (h : s.Balanced inUse) (hheld : s.Held library) :
    (s.retain library).Balanced (library :: inUse) := by
  refine ⟨h.providers, h.descriptors, h.handles, fun id => ?_⟩
  have hpool := s.pool.holdersOf_retain hheld id
  have hholders := h.holders id
  show (s.pool.retain library).holdersOf id = s.kept id + _
  rw [List.map_cons, List.sum_cons]
  omega

/-- What was in use lets its library go. -/
theorem release (h : s.Balanced (library :: inUse)) : (s.release library).Balanced inUse := by
  refine ⟨h.providers, h.descriptors, h.handles, fun id => ?_⟩
  have hpool := s.pool.holdersOf_release library id
  have hholders := h.holders id
  rw [List.map_cons, List.sum_cons] at hholders
  show (s.pool.release library).holdersOf id = s.kept id + _
  omega

/-- A library that is opened has one holder, which is in use. -/
theorem add (h : s.Balanced inUse) :
    Balanced { s with pool := s.pool.add } (some s.pool.next :: inUse) := by
  refine ⟨h.providers, h.descriptors, h.handles, fun id => ?_⟩
  have hpool := s.pool.holdersOf_add id
  have hholders := h.holders id
  show s.pool.add.holdersOf id = s.kept id + _
  rw [List.map_cons, List.sum_cons]
  omega

/-- A provider in use is kept, or let go. -/
theorem keepProvider {item : Sourced Supplier} (h : s.Balanced (item.library :: inUse))
    (label : Option String) : (s.keepProvider label item).Balanced inUse := by
  cases label with
  | none => exact h.release
  | some label =>
      have hshelf := h.providers.put label item
      refine Balanced.release (h.of_kept rfl hshelf h.descriptors h.handles ?_)
      intro id
      have hput := Shelf.madeFrom_put h.providers label item id
      simp only [kept, List.map_cons, List.sum_cons]
      omega

theorem keepDescriptor {item : Sourced Descriptor} (h : s.Balanced (item.library :: inUse))
    (label : Option String) : (s.keepDescriptor label item).Balanced inUse := by
  cases label with
  | none => exact h.release
  | some label =>
      have hshelf := h.descriptors.put label item
      refine Balanced.release (h.of_kept rfl h.providers hshelf h.handles ?_)
      intro id
      have hput := Shelf.madeFrom_put h.descriptors label item id
      simp only [kept, List.map_cons, List.sum_cons]
      omega

theorem keepHandle {item : Sourced Handle} (h : s.Balanced (item.library :: inUse))
    (label : Option String) : (s.keepHandle label item).Balanced inUse := by
  cases label with
  | none => exact h.release
  | some label =>
      have hshelf := h.handles.put label item
      refine Balanced.release (h.of_kept rfl h.providers h.descriptors hshelf ?_)
      intro id
      have hput := Shelf.madeFrom_put h.handles label item id
      simp only [kept, List.map_cons, List.sum_cons]
      omega

/-- Findings hold nothing. -/
theorem keepFinding (h : s.Balanced inUse) (label : Option String) (item : Sourced Finding) :
    (s.keepFinding label item).Balanced inUse := by
  cases label with
  | none => exact h
  | some label => exact h.of_kept rfl h.providers h.descriptors h.handles fun _ => rfl

end Balanced

theorem adopt_accounted (h : s.Balanced inUse) (opened : Except Failure SharedLibrary) :
    Accounted inUse (s.adopt opened) := by
  cases opened with
  | error e => exact h
  | ok library => exact h.add

/-- A value that was made from no library holds none. -/
theorem Balanced.cons_none (h : s.Balanced inUse) : s.Balanced (none :: inUse) := by
  refine h.of_kept rfl h.providers h.descriptors h.handles fun id => ?_
  simp

/-- Having a provider: a library that is opened for it is in use. -/
theorem supply_accounted (h : s.Balanced inUse) (offer : Offer) :
    Accounted inUse (s.supply offer) := by
  cases offer with
  | linked => exact h.cons_none
  | given provider => exact h.cons_none
  | library name display path => exact adopt_accounted h _
  | discovered name display => exact adopt_accounted h _
  | configured entry =>
      cases hsource : entry.source with
      | library path =>
          simp only [supply, hsource]
          exact adopt_accounted h _
      | builtin =>
          simp only [supply, hsource]
          cases (entry.provider s.world).result with
          | error e => exact h
          | ok provider => exact h.cons_none

theorem takeDescriptor_accounted {item : Sourced Supplier} (h : s.Balanced inUse)
    (hheld : s.Held item.library) : Accounted inUse (s.takeDescriptor item) := by
  unfold takeDescriptor
  cases item.value.provider.descriptor with
  | error e => exact h
  | ok descriptor => exact h.retain hheld

/-- Loading a language: the descriptor is in use while the load runs; then the
handle is in its place, or nothing. -/
theorem takeHandle_accounted {item : Sourced Supplier} (h : s.Balanced inUse)
    (hheld : s.Held item.library) : Accounted inUse (s.takeHandle item) := by
  have hdescribed := takeDescriptor_accounted h hheld
  unfold takeHandle
  generalize s.takeDescriptor item = taken at hdescribed ⊢
  obtain ⟨result, described⟩ := taken
  cases result with
  | error e => exact hdescribed
  | ok descriptor =>
      have hused : described.Balanced (descriptor.library :: inUse) := hdescribed
      cases (load item.value.provider).result with
      | error e => exact hused.release
      | ok handle => exact (hused.retain hused.held_of_inUse).release

/-- Doing something with a provider: one that is had for this only is in use
until it is done. -/
theorem withSubject_accounted {α : Type} (h : s.Balanced inUse) (subject : Subject)
    {use : Session → Sourced Supplier → Except Failure (Sourced α) × Session}
    (huse : ∀ (s : Session) (inUse : List (Option LibraryId)) (item : Sourced Supplier),
      s.Balanced inUse → s.Held item.library → Accounted inUse (use s item)) :
    Accounted inUse (s.withSubject subject use) := by
  cases subject with
  | kept label =>
      cases hkept : s.providers.get? label with
      | none =>
          simp only [withSubject, hkept]
          exact h
      | some item =>
          simp only [withSubject, hkept]
          exact huse s inUse item h (h.held_of_provider hkept)
  | offered offer =>
      have hsupplied := supply_accounted h offer
      simp only [withSubject]
      generalize s.supply offer = had at hsupplied ⊢
      obtain ⟨result, supplied⟩ := had
      cases result with
      | error e => exact hsupplied
      | ok item =>
          have hitem : supplied.Balanced (item.library :: inUse) := hsupplied
          have hused := huse supplied _ item hitem hitem.held_of_inUse
          simp only
          generalize use supplied item = done at hused ⊢
          obtain ⟨outcome, used⟩ := done
          cases outcome with
          | error e => exact Balanced.release hused
          | ok made => exact Balanced.release (Balanced.swap hused)

/-- A check lets go all that it opens and loads. -/
theorem verify_balanced (h : s.Balanced inUse) (entry : Entry) :
    (s.verify entry).2.Balanced inUse := by
  have hsupplied := supply_accounted h (.configured entry)
  unfold verify
  generalize s.supply (.configured entry) = had at hsupplied ⊢
  obtain ⟨result, supplied⟩ := had
  cases result with
  | error e => exact hsupplied
  | ok item =>
      have hitem : supplied.Balanced (item.library :: inUse) := hsupplied
      have htaken := takeHandle_accounted hitem hitem.held_of_inUse
      simp only
      generalize supplied.takeHandle item = taken at htaken ⊢
      obtain ⟨loaded, used⟩ := taken
      cases loaded with
      | error e => exact Balanced.release htaken
      | ok handle => exact Balanced.release (Balanced.release htaken)

/-- What an operation gives is kept or let go, and then nothing is in use. -/
theorem conclude_balanced {α : Type} {result : Except Failure (Sourced α) × Session}
    (h : Accounted inUse result) {keep : Session → Sourced α → Session}
    (hkeep : ∀ {s : Session} {item : Sourced α}, s.Balanced (item.library :: inUse) →
      (keep s item).Balanced inUse)
    (tell : α → Answer) : (conclude result keep tell).2.Balanced inUse := by
  obtain ⟨outcome, s⟩ := result
  cases outcome with
  | error e => exact h
  | ok item => exact hkeep h

theorem conclude_finding_balanced {result : Except Failure (Sourced Finding) × Session}
    (h : result.2.Balanced inUse) (label : Option String) (tell : Finding → Answer) :
    (conclude result (·.keepFinding label ·) tell).2.Balanced inUse := by
  obtain ⟨outcome, s⟩ := result
  cases outcome with
  | error e => exact h
  | ok item => exact Balanced.keepFinding h label item

/-- **One request.**  Between two requests nothing is in use. -/
theorem answer_balanced (h : s.Balanced []) (request : Request) :
    (s.answer request).2.Balanced [] := by
  have hframe : ∀ world, (s.inWorld world).Balanced [] := fun world =>
    h.of_kept rfl h.providers h.descriptors h.handles fun _ => rfl
  cases request with
  | setVariable name value => exact hframe _
  | unsetVariable name => exact hframe _
  | writeFile path content => exact hframe _
  | makeDirectory path => exact hframe _
  | remove path => exact hframe _
  | provide offer label =>
      exact conclude_balanced (supply_accounted h offer) (·.keepProvider label) _
  | describe subject label =>
      have htaken := withSubject_accounted h subject fun _ _ _ => takeDescriptor_accounted
      exact conclude_balanced htaken
        (·.keepDescriptor label) _
  | load subject label =>
      exact conclude_balanced (withSubject_accounted h subject fun _ _ _ => takeHandle_accounted)
        (·.keepHandle label) _
  | parse handle text label => exact conclude_finding_balanced h label _
  | verify entry label => exact conclude_finding_balanced (verify_balanced h entry) label _
  | copyDescriptor source label =>
      cases hsource : s.descriptors.get? source with
      | none =>
          simp only [answer, hsource]
          exact h
      | some item =>
          simp only [answer, hsource]
          exact (h.retain (h.held_of_descriptor hsource)).keepDescriptor label
  | copyHandle source label =>
      cases hsource : s.handles.get? source with
      | none =>
          simp only [answer, hsource]
          exact h
      | some item =>
          simp only [answer, hsource]
          exact (h.retain (h.held_of_handle hsource)).keepHandle label
  | dropProvider label =>
      refine Balanced.release (h.of_kept rfl (h.providers.drop label) h.descriptors h.handles ?_)
      intro id
      have hdrop := Shelf.madeFrom_drop h.providers label id
      simp only [kept, List.map_cons, List.map_nil, List.sum_cons, List.sum_nil]
      omega
  | dropDescriptor label =>
      refine Balanced.release (h.of_kept rfl h.providers (h.descriptors.drop label) h.handles ?_)
      intro id
      have hdrop := Shelf.madeFrom_drop h.descriptors label id
      simp only [kept, List.map_cons, List.map_nil, List.sum_cons, List.sum_nil]
      omega
  | dropHandle label =>
      refine Balanced.release (h.of_kept rfl h.providers h.descriptors (h.handles.drop label) ?_)
      intro id
      have hdrop := Shelf.madeFrom_drop h.handles label id
      simp only [kept, List.map_cons, List.map_nil, List.sum_cons, List.sum_nil]
      omega
  | dropFinding label => exact h.of_kept rfl h.providers h.descriptors h.handles fun _ => rfl

/-- **A run of requests.**  The induction is on the requests, for any session to
start with. -/
theorem answerAll_balanced (h : s.Balanced []) (requests : List Request) :
    (s.answerAll requests).Balanced [] := by
  induction requests generalizing s with
  | nil => exact h
  | cons request rest ih => exact ih (answer_balanced h request)

end Balance

/-- Nothing has been opened at the start, and nothing is kept. -/
theorem start_balanced (w : World) : (start w).Balanced [] :=
  ⟨Shelf.labelled_empty, Shelf.labelled_empty, Shelf.labelled_empty, fun _ => rfl⟩

/-- **Open libraries.**  Between two requests a library is open exactly when
something that was made from it is kept. -/
theorem Balanced.isOpen_iff {s : Session} (h : s.Balanced []) (id : LibraryId) :
    s.pool.isOpen id = true ↔
      (∃ label item, s.providers.get? label = some item ∧ item.library = some id) ∨
      (∃ label item, s.descriptors.get? label = some item ∧ item.library = some id) ∨
      ∃ label item, s.handles.get? label = some item ∧ item.library = some id := by
  have hholders := h.holders id
  rw [List.map_nil, List.sum_nil, Nat.add_zero, kept] at hholders
  rw [← Shelf.madeFrom_pos_iff h.providers, ← Shelf.madeFrom_pos_iff h.descriptors,
    ← Shelf.madeFrom_pos_iff h.handles, Pool.isOpen, decide_eq_true_iff, hholders]
  omega

/-- **A load that fails.**  Every library has the holders that it had before, and
what is kept is the same. -/
theorem answer_load_error {s : Session} (h : s.Balanced []) {subject : Subject}
    {label : Option String} {failure : Failure}
    (hfailed : (s.answer (.load subject label)).1 = .error failure) :
    s.SameShelves (s.answer (.load subject label)).2 ∧
      ∀ id, (s.answer (.load subject label)).2.pool.holdersOf id = s.pool.holdersOf id := by
  have hsame : s.SameShelves (s.answer (.load subject label)).2 := by
    have hused := s.sameShelves_withSubject subject sameShelves_takeHandle
    simp only [answer] at hfailed ⊢
    generalize s.withSubject subject takeHandle = done at hfailed hused ⊢
    obtain ⟨outcome, used⟩ := done
    cases outcome with
    | error e => exact hused
    | ok item => cases hfailed
  refine ⟨hsame, fun id => ?_⟩
  have hafter := (answer_balanced h (.load subject label)).holders id
  rw [hafter, h.holders id, kept, kept, hsame.providers, hsame.descriptors, hsame.handles]

/-- A library that is opened gets the number after those opened before. -/
theorem supply_library {s : Session} {offer : Offer} {item : Sourced Supplier}
    {library : SharedLibrary} (hsupply : (s.supply offer).1 = .ok item)
    (hitem : item.value = .library library) :
    item = ⟨.library library, some s.pool.next⟩ ∧
      (s.supply offer).2 = { s with pool := s.pool.add } := by
  have hadopt : ∀ opened, (s.adopt opened).1 = .ok item →
      item = ⟨.library library, some s.pool.next⟩ ∧
        (s.adopt opened).2 = { s with pool := s.pool.add } := by
    intro opened hopened
    cases opened with
    | error e => cases hopened
    | ok other =>
        obtain rfl := Except.ok.inj hopened
        obtain rfl := Supplier.library.inj hitem
        exact ⟨rfl, rfl⟩
  cases offer with
  | linked =>
      obtain rfl := Except.ok.inj hsupply
      cases hitem
  | given provider =>
      obtain rfl := Except.ok.inj hsupply
      cases hitem
  | library name display path => exact hadopt _ hsupply
  | discovered name display => exact hadopt _ hsupply
  | configured entry =>
      cases hsource : entry.source with
      | library path =>
          simp only [supply, hsource] at hsupply ⊢
          exact hadopt _ hsupply
      | builtin =>
          simp only [supply, hsource] at hsupply
          obtain ⟨provider, -, rfl⟩ := map_eq_ok.mp hsupply
          cases hitem

/-- **Opening.**  Every opening that succeeds is a library of its own, which the
provider that is kept was made from. -/
theorem answer_provide_library {s : Session} {offer : Offer} {label : String}
    {library : SharedLibrary}
    (hopened : (s.answer (.provide offer (some label))).1 = .ok (.provided (.library library))) :
    (s.answer (.provide offer (some label))).2.providers.get? label
        = some ⟨.library library, some s.pool.next⟩ ∧
      (s.answer (.provide offer (some label))).2.pool.next = s.pool.next + 1 := by
  rcases hsupply : s.supply offer with ⟨outcome, supplied⟩
  cases outcome with
  | error e => simp [answer, hsupply, conclude] at hopened
  | ok item =>
      have hitem : item.value = .library library := by
        simpa [answer, hsupply, conclude] using hopened
      have hresult : (s.supply offer).1 = .ok item := by rw [hsupply]
      obtain ⟨rfl, hpool⟩ := supply_library hresult hitem
      obtain rfl : supplied = { s with pool := s.pool.add } := by rw [← hpool, hsupply]
      have hanswer : (s.answer (.provide offer (some label))).2
          = Session.keepProvider { s with pool := s.pool.add } (some label)
            ⟨.library library, some s.pool.next⟩ := by simp [answer, hsupply, conclude]
      rw [hanswer]
      simp [keepProvider, release]

/-- What a handle answers when it is asked. -/
structure HandleAnswers where
  name : String
  display : String
  source : Source
  abiVersion : Nat
  nodeKinds : Nat
  missingKinds : List String → List String
  parseSample : String → Except GrammarError Summary

/-- The answers that the language of a handle gives. -/
def answersOf (h : Handle) : HandleAnswers where
  name := h.name
  display := h.display
  source := h.source
  abiVersion := h.abiVersion
  nodeKinds := h.nodeKinds
  missingKinds := h.language.missingKinds
  parseSample text := (h.parseSample text).result

/-- Asks a handle.  Its language lies in the library that it was made from, so it
answers nothing once that is closed. -/
def ask (s : Session) (item : Sourced Handle) : Option HandleAnswers :=
  if item.library.all s.pool.isOpen then some (answersOf item.value) else none

/-- A handle that is kept answers. -/
theorem Balanced.ask_eq {s : Session} (h : s.Balanced []) {label : String} {item : Sourced Handle}
    (hkept : s.handles.get? label = some item) : s.ask item = some (answersOf item.value) := by
  refine if_pos ?_
  cases hlibrary : item.library with
  | none => rfl
  | some id => exact (h.isOpen_iff id).mpr (Or.inr (Or.inr ⟨label, item, hkept, hlibrary⟩))

theorem answerAll_append (s : Session) (before later : List Request) :
    s.answerAll (before ++ later) = (s.answerAll before).answerAll later :=
  List.foldl_append

/-- A load among some requests made the handle, from the library of the provider
that it loaded; `first` is the label that the handle got then. -/
inductive LoadedAmong (s : Session) (item : Sourced Handle) : List Request → Prop
  | intro {before later : List Request} {subject : Subject} {first : String}
      {supplier : Sourced Supplier} (hsupplier : (s.answerAll before).StandsFor subject supplier)
      (hload : (load supplier.value.provider).result = .ok item.value)
      (hlibrary : item.library = supplier.library)
      (hfirst : (s.answerAll (before ++ [.load subject (some first)])).handles.get? first
        = some item) : LoadedAmong s item (before ++ .load subject (some first) :: later)

theorem LoadedAmong.append {s : Session} {item : Sourced Handle} {requests : List Request}
    (h : s.LoadedAmong item requests) (more : List Request) :
    s.LoadedAmong item (requests ++ more) := by
  cases h with
  | intro hsupplier hload hlibrary hfirst =>
      rw [List.append_assoc, List.cons_append]
      exact .intro hsupplier hload hlibrary hfirst

/-- **Where handles come from.**  Every kept handle, or the one that it is a copy
of, was made by a load.  The induction is on the requests, the last one first. -/
theorem loadedAmong_of_kept {s : Session} (hnone : ∀ label, s.handles.get? label = none)
    (requests : List Request) {label : String} {item : Sourced Handle}
    (hkept : (s.answerAll requests).handles.get? label = some item) :
    s.LoadedAmong item requests := by
  induction requests using List.reverseRecOn generalizing label with
  | nil => simp [answerAll, hnone] at hkept
  | append_singleton earlier request ih =>
      have hearlier : ∀ label, (s.answerAll earlier).handles.get? label = some item →
          s.LoadedAmong item (earlier ++ [request]) := fun _ hthen => (ih hthen).append [request]
      have hlast : s.answerAll (earlier ++ [request]) = ((s.answerAll earlier).answer request).2 :=
        s.answerAll_append earlier [request]
      have hstep := (s.answerAll earlier).answer_handleStep request
      rw [← hlast] at hstep
      generalize hhandles : (s.answerAll (earlier ++ [request])).handles = handles at hstep hkept
      cases hstep with
      | same => exact hearlier label hkept
      | @loaded subject supplier h hsupplier hload first =>
          by_cases hlabel : label = first
          · obtain rfl : _ = item := by simpa [hlabel] using hkept
            exact .intro hsupplier hload rfl (by rw [hhandles]; simp)
          · exact hearlier label (by simpa [hlabel] using hkept)
      | @copied source copy hsource label' =>
          by_cases hlabel : label = label'
          · obtain rfl : copy = item := by simpa [hlabel] using hkept
            exact hearlier source hsource
          · exact hearlier label (by simpa [hlabel] using hkept)
      | dropped gone =>
          by_cases hlabel : label = gone
          · simp [hlabel] at hkept
          · exact hearlier label (by simpa [hlabel] using hkept)

/-- **A library outlives what is made from it, and only that.**  After any
requests a library is open exactly when a provider, a descriptor or a handle that
was made from it is kept.  Every opening is a library of its own.  A load that
fails leaves all that is kept, and the holders of every library, as they were.
Every handle that is kept was made by one of the loads, from the library of the
provider that was loaded, and it answers as it did right after that load. -/
theorem library_open_while_held (w : World) (requests : List Request) :
    let s := (start w).answerAll requests
    (∀ id, s.pool.isOpen id = true ↔
      (∃ label item, s.providers.get? label = some item ∧ item.library = some id) ∨
      (∃ label item, s.descriptors.get? label = some item ∧ item.library = some id) ∨
      ∃ label item, s.handles.get? label = some item ∧ item.library = some id) ∧
    (∀ offer label library,
      (s.answer (.provide offer (some label))).1 = .ok (.provided (.library library)) →
      (s.answer (.provide offer (some label))).2.providers.get? label
          = some ⟨.library library, some s.pool.next⟩ ∧
        (s.answer (.provide offer (some label))).2.pool.next = s.pool.next + 1) ∧
    (∀ subject label failure, (s.answer (.load subject label)).1 = .error failure →
      s.SameShelves (s.answer (.load subject label)).2 ∧
        ∀ id, (s.answer (.load subject label)).2.pool.holdersOf id = s.pool.holdersOf id) ∧
    ∀ label item, s.handles.get? label = some item →
      ∃ before subject first later supplier,
        requests = before ++ .load subject (some first) :: later ∧
        ((start w).answerAll before).StandsFor subject supplier ∧
        (load supplier.value.provider).result = .ok item.value ∧
        item.library = supplier.library ∧
        let loaded := (start w).answerAll (before ++ [.load subject (some first)])
        loaded.handles.get? first = some item ∧
        loaded.ask item = some (answersOf item.value) ∧ s.ask item = loaded.ask item := by
  intro s
  have hbalanced : ∀ requests, ((start w).answerAll requests).Balanced [] :=
    answerAll_balanced (start_balanced w)
  refine ⟨(hbalanced requests).isOpen_iff, fun _ _ _ => answer_provide_library,
    fun _ _ _ => answer_load_error (hbalanced requests), fun label item hkept => ?_⟩
  have hasked : s.ask item = some (answersOf item.value) := (hbalanced requests).ask_eq hkept
  have hloaded := loadedAmong_of_kept (s := start w) (fun _ => rfl) requests hkept
  cases hloaded with
  | @intro before later subject first supplier hsupplier hload hlibrary hfirst =>
      have hthen := (hbalanced _).ask_eq hfirst
      exact ⟨before, subject, first, later, supplier, rfl, hsupplier, hload, hlibrary, hfirst,
        hthen, hasked.trans hthen.symm⟩

end Session

end GrammarAudit
