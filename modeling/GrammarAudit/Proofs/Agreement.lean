import Mathlib.Data.List.Forall2
import GrammarAudit.Config.Check
import GrammarAudit.Proofs.Loading

/-!
# Checks that agree up to their wording

What a check reports mentions paths, and so does what it says when it fails.
Two entries whose paths are written differently but mean the same files agree in
everything else: both checks succeed, or both fail with the same kind of error.
Agreement is a relation on results that a sequence of computations preserves, so
it is proved stage by stage.

* `Agree` and `Agree.bind`: results that agree, and how a sequence preserves it.
* `load_agree`: providers that agree are loaded alike.
* `provider_agree`: entries for the same library have providers that agree.
* `verifyProvider_agree`, `verify_agree`: entries that agree are checked alike.
* `sameWith_iff`: what the outcome depends on of the library that is opened.
-/

namespace GrammarAudit

/-- Two results agree: both are values that are related, or both are errors that
are. -/
inductive Agree {ε δ α β : Type} (E : ε → δ → Prop) (R : α → β → Prop) :
    Except ε α → Except δ β → Prop
  | ok {a : α} {b : β} (h : R a b) : Agree E R (.ok a) (.ok b)
  | error {e : ε} {d : δ} (h : E e d) : Agree E R (.error e) (.error d)

namespace Agree

variable {ε δ α β : Type} {E : ε → δ → Prop} {R : α → β → Prop}

/-- A sequence preserves agreement: its first parts agree, and its second parts
do on related values. -/
theorem bind {α' β' : Type} {S : α' → β' → Prop} {x : Except ε α} {y : Except δ β}
    {f : α → Except ε α'} {g : β → Except δ β'} (hxy : Agree E R x y)
    (hfg : ∀ a b, R a b → Agree E S (f a) (g b)) : Agree E S (x.bind f) (y.bind g) := by
  cases hxy with
  | ok h => exact hfg _ _ h
  | error h => exact .error h

/-- Agreement is kept when errors are put in other terms that are related. -/
theorem mapError {ε' δ' : Type} {E' : ε' → δ' → Prop} {x : Except ε α} {y : Except δ β}
    {f : ε → ε'} {g : δ → δ'} (hxy : Agree E R x y) (hfg : ∀ e d, E e d → E' (f e) (g d)) :
    Agree E' R (x.mapError f) (y.mapError g) := by
  cases hxy with
  | ok h => exact .ok h
  | error h => exact .error (hfg _ _ h)

/-- A result agrees with itself. -/
theorem refl {E : ε → ε → Prop} {R : α → α → Prop} (hE : ∀ e, E e e) (hR : ∀ a, R a a)
    (x : Except ε α) : Agree E R x x := by
  cases x with
  | error e => exact .error (hE e)
  | ok a => exact .ok (hR a)

/-- Agreement does not depend on the order if the relations do not. -/
theorem symm {E : ε → ε → Prop} {R : α → α → Prop} {x y : Except ε α} (hxy : Agree E R x y)
    (hE : ∀ e d, E e d → E d e) (hR : ∀ a b, R a b → R b a) : Agree E R y x := by
  cases hxy with
  | ok h => exact .ok (hR _ _ h)
  | error h => exact .error (hE _ _ h)

/-- Results that agree with a third one agree if the relations compose. -/
theorem trans {E : ε → ε → Prop} {R : α → α → Prop} {x y z : Except ε α} (hxy : Agree E R x y)
    (hyz : Agree E R y z) (hE : ∀ c d e, E c d → E d e → E c e)
    (hR : ∀ a b c, R a b → R b c → R a c) : Agree E R x z := by
  cases hxy with
  | ok h =>
      cases hyz with
      | ok h' => exact .ok (hR _ _ _ h h')
  | error h =>
      cases hyz with
      | error h' => exact .error (hE _ _ _ h h')

end Agree

/-- Two refusals of a grammar have the same cause; what they tell of it may
differ. -/
inductive GrammarError.SameCause : GrammarError → GrammarError → Prop
  | notFound (a b : String) : SameCause (.notFound a) (.notFound b)
  | loadError (a b : String) : SameCause (.loadError a) (.loadError b)
  | missingSymbol (a b : String) : SameCause (.missingSymbol a) (.missingSymbol b)
  | absent (a b : String) : SameCause (.absent a) (.absent b)
  | incompatibleVersion (a b : String) (i j k l m n : Nat) :
      SameCause (.incompatibleVersion a i j k) (.incompatibleVersion b l m n)
  | rejected (a b c d : String) : SameCause (.rejected a b) (.rejected c d)
  | missingKinds (a b : String) (k l : List String) :
      SameCause (.missingKinds a k) (.missingKinds b l)
  | parse (a b c d : String) : SameCause (.parse a b) (.parse c d)
  | io (a b : IoFault) : SameCause (.io a) (.io b)

/-- A refusal has its own cause. -/
theorem GrammarError.SameCause.refl (e : GrammarError) : e.SameCause e := by
  cases e <;> constructor

/-- Having the same cause does not depend on the order. -/
theorem GrammarError.SameCause.symm {a b : GrammarError} (h : a.SameCause b) : b.SameCause a := by
  cases h <;> constructor

/-- Refusals with the cause of a third one have the same cause. -/
theorem GrammarError.SameCause.trans {a b c : GrammarError} (hab : a.SameCause b)
    (hbc : b.SameCause c) : a.SameCause c := by
  cases hab <;> (cases hbc; constructor)

/-- Two refusals in a config have the same cause. -/
inductive Config.ConfigError.SameCause : ConfigError → ConfigError → Prop
  | io (p q : Path) (a b : IoFault) : SameCause (.io p a) (.io q b)
  | notToml : SameCause .notToml .notToml
  | shape (a b : String) : SameCause (.shape a) (.shape b)
  | unknownGrammar (a b : String) : SameCause (.unknownGrammar a) (.unknownGrammar b)
  | grammar {a b : GrammarError} (h : a.SameCause b) : SameCause (.grammar a) (.grammar b)

/-- A refusal in a config has its own cause. -/
theorem Config.ConfigError.SameCause.refl (e : ConfigError) : e.SameCause e := by
  cases e with
  | grammar error => exact .grammar (.refl error)
  | _ => constructor

/-- Having the same cause in a config does not depend on the order. -/
theorem Config.ConfigError.SameCause.symm {a b : ConfigError} (h : a.SameCause b) :
    b.SameCause a := by
  cases h with
  | grammar h => exact .grammar h.symm
  | _ => constructor

/-- Refusals in a config with the cause of a third one have the same cause. -/
theorem Config.ConfigError.SameCause.trans {a b c : ConfigError} (hab : a.SameCause b)
    (hbc : b.SameCause c) : a.SameCause c := by
  cases hab with
  | grammar hab =>
      cases hbc with
      | grammar hbc => exact .grammar (hab.trans hbc)
  | _ =>
      cases hbc
      constructor

/-- Two providers have the same names, and their descriptors agree. -/
structure Provider.Alike (p q : Provider) : Prop where
  name : p.name = q.name
  descriptor : Agree GrammarError.SameCause Eq p.descriptor q.descriptor

/-- A provider agrees with itself. -/
theorem Provider.Alike.refl (p : Provider) : p.Alike p :=
  ⟨rfl, .refl .refl (fun _ => rfl) _⟩

/-- Two handles have the same name and the same language. -/
structure Handle.Alike (h k : Handle) : Prop where
  name : h.name = k.name
  language : h.language = k.language

/-- Two opened libraries are the same library, opened for the same grammar. -/
structure SharedLibrary.Alike (l m : SharedLibrary) : Prop where
  name : l.name = m.name
  object : l.object = m.object

/-- Providers of the same library agree. -/
theorem SharedLibrary.Alike.provider {l m : SharedLibrary} (h : l.Alike m) :
    l.provider.Alike m.provider := by
  refine ⟨h.name, ?_⟩
  show Agree GrammarError.SameCause Eq l.descriptor m.descriptor
  unfold SharedLibrary.descriptor
  rw [h.name, h.object]
  cases m.object.symbol? (symbolName m.name) with
  | none => exact .error (.missingSymbol _ _)
  | some pointer => exact .ok rfl

/-- Two paths under which the same libraries can be opened are opened alike. -/
theorem SharedLibrary.open_agree {fs : FileSystem} {p q : Path}
    (hpq : ∀ object, fs.openLibrary p = .ok object ↔ fs.openLibrary q = .ok object)
    (name display display' : String) :
    Agree GrammarError.SameCause SharedLibrary.Alike (SharedLibrary.open fs name display p).result
      (SharedLibrary.open fs name display' q).result := by
  unfold SharedLibrary.open
  cases hp : fs.openLibrary p with
  | ok object =>
      rw [(hpq object).mp hp]
      exact .ok ⟨rfl, rfl⟩
  | error fault =>
      cases hq : fs.openLibrary q with
      | ok object =>
          rw [(hpq object).mpr hq] at hp
          cases hp
      | error fault' => exact .error (.loadError _ _)

/-- **Loading.**  Providers that agree are loaded alike. -/
theorem load_agree {p q : Provider} (hpq : p.Alike q) :
    Agree GrammarError.SameCause Handle.Alike (load p).result (load q).result := by
  rw [load_result, load_result]
  refine hpq.descriptor.bind ?_
  intro descriptor _ heq
  subst heq
  cases descriptor.language with
  | none => exact .error (.absent _ _)
  | some language =>
      by_cases hread : language.isReadable = true
      · simp only [if_pos hread]
        exact .ok ⟨hpq.name, rfl⟩
      · simp only [if_neg hread]
        exact .error (.incompatibleVersion _ _ _ _ _ _ _ _)

/-- Handles that agree answer alike when they are asked for node kinds. -/
theorem checkKinds_agree {h k : Handle} (hk : h.Alike k) (kinds : List String) :
    (h.checkKinds kinds).result = (k.checkKinds kinds).result := by
  unfold Handle.checkKinds
  rw [hk.language]
  cases k.language.missingKinds kinds with
  | nil => rfl
  | cons kind rest => simp only [hk.name]

/-- Handles that agree parse alike. -/
theorem parseSample_agree {h k : Handle} (hk : h.Alike k) (text : String) :
    (h.parseSample text).result = (k.parseSample text).result := by
  simp only [Handle.parseSample, Logged.result_bind, Logged.result_ofExcept, Logged.result_emit,
    Logged.result_pure, Handle.parser, hk.name, hk.language]

namespace Config.Entry

variable (w : World)

/-- Two entries of one name ask for the same node kinds, and their samples are the
same texts. -/
structure AsksAlike (e f : Entry) : Prop where
  name : e.name = f.name
  requiredKinds : e.requiredKinds = f.requiredKinds
  samples : List.Forall₂ (fun p q => ∀ text, w.files.readText p = .ok text ↔
    w.files.readText q = .ok text) e.samples f.samples

/-- Two entries ask for the same, and their providers agree. -/
structure Alike (e f : Entry) : Prop extends e.AsksAlike w f where
  provider : Agree ConfigError.SameCause Provider.Alike (e.provider w).result (f.provider w).result

/-- The outcomes of two checks agree: both succeed, or they fail for the same
cause. -/
def SameOutcome : Except ConfigError Report → Except ConfigError Report → Prop :=
  Agree ConfigError.SameCause fun _ _ => True

/-- The outcomes of two checks agree in either order. -/
theorem SameOutcome.symm {x y : Except ConfigError Report} (h : SameOutcome x y) :
    SameOutcome y x :=
  Agree.symm h (fun _ _ => .symm) fun _ _ => id

/-- Outcomes that agree with a third one agree. -/
theorem SameOutcome.trans {x y z : Except ConfigError Report} (hxy : SameOutcome x y)
    (hyz : SameOutcome y z) : SameOutcome x z :=
  Agree.trans hxy hyz (fun _ _ _ => .trans) fun _ _ _ _ _ => trivial

variable {w}

/-- An entry asks for the same as it does itself. -/
theorem AsksAlike.refl (e : Entry) : e.AsksAlike w e :=
  ⟨rfl, rfl, List.forall₂_same.mpr fun _ _ _ => Iff.rfl⟩

/-- Providers of two libraries agree when the files that the libraries are
looked for in are both missing, or the same libraries can be opened under their
paths. -/
theorem provider_agree {e f : Entry} {p q : Path} (he : e.source = .library p)
    (hf : f.source = .library q) (hname : e.name = f.name)
    (hfile : Agree GrammarError.SameCause
      (fun a b => ∀ object, w.files.openLibrary a = .ok object ↔ w.files.openLibrary b = .ok object)
      (libraryFile w.files e.name p) (libraryFile w.files f.name q)) :
    Agree ConfigError.SameCause Provider.Alike (e.provider w).result (f.provider w).result := by
  simp only [provider, he, hf, openLibrary, Logged.result_bind, Logged.result_ofExcept,
    Logged.result_mapError, Logged.result_pure]
  refine Agree.bind (R := SharedLibrary.Alike) ?_ fun _ _ h => .ok h.provider
  refine (hfile.mapError fun _ _ => .grammar).bind ?_
  intro a b hab
  rw [hname]
  exact (SharedLibrary.open_agree hab _ _ _).mapError fun _ _ => .grammar

/-- A text is found under both of two paths, or under neither. -/
theorem readText_agree {p q : Path}
    (hpq : ∀ text, w.files.readText p = .ok text ↔ w.files.readText q = .ok text) :
    Agree ConfigError.SameCause Eq ((w.files.readText p).mapError (ConfigError.io p))
      ((w.files.readText q).mapError (ConfigError.io q)) := by
  cases hp : w.files.readText p with
  | ok text =>
      rw [(hpq text).mp hp]
      exact .ok rfl
  | error fault =>
      cases hq : w.files.readText q with
      | ok text =>
          rw [(hpq text).mpr hq] at hp
          cases hp
      | error fault' => exact .error (.io p q fault fault')

/-- Samples that are the same texts are parsed alike.  The induction is on the
two lists. -/
theorem parseSamples_agree (e f : Entry) {h k : Handle} (hk : h.Alike k) {ps qs : List Path}
    (hpq : List.Forall₂ (fun p q => ∀ text, w.files.readText p = .ok text ↔
      w.files.readText q = .ok text) ps qs) :
    Agree ConfigError.SameCause (fun _ _ => True) (e.parseSamples w h ps).result
      (f.parseSamples w k qs).result := by
  induction hpq with
  | nil => exact .ok trivial
  | cons hread hrest ih =>
      simp only [parseSamples, parseSample, Logged.result_bind, Logged.result_ofExcept,
        Logged.result_emit, Logged.result_mapError, Logged.result_pure]
      refine Agree.bind (R := fun _ _ => True) ?_ ?_
      · refine (readText_agree hread).bind ?_
        intro text _ heq
        subst heq
        have hparsed : Agree ConfigError.SameCause Eq
            ((h.parseSample text).result.mapError ConfigError.grammar)
            ((k.parseSample text).result.mapError ConfigError.grammar) := by
          rw [parseSample_agree hk]
          exact .refl .refl (fun _ => rfl) _
        exact hparsed.bind fun _ _ _ => .ok trivial
      · intro _ _ _
        exact ih.bind fun _ _ _ => .ok trivial

/-- **Checking what a provider hands out.**  Providers that agree are checked with
the same outcome for entries that ask for the same. -/
theorem verifyProvider_agree {e f : Entry} (h : e.AsksAlike w f) {p q : Provider}
    (hpq : p.Alike q) :
    SameOutcome (e.verifyProvider w p).result (f.verifyProvider w q).result := by
  simp only [verifyProvider, Logged.result_bind, Logged.result_mapError, Logged.result_emit,
    Logged.result_pure]
  refine ((load_agree hpq).mapError fun _ _ => .grammar).bind ?_
  intro x y hxy
  have hkinds : e.effectiveKinds = f.effectiveKinds := by
    rw [effectiveKinds, effectiveKinds, h.requiredKinds, h.name]
  have hbuiltin : (e.parseBuiltinSample x).result = (f.parseBuiltinSample y).result := by
    unfold parseBuiltinSample
    rw [h.name]
    by_cases hname : f.name = linkedName
    · simp only [hname, if_true, Logged.result_bind, Logged.result_mapError, Logged.result_pure,
        parseSample_agree hxy]
    · simp only [hname, if_false]
  rw [hkinds, checkKinds_agree hxy, hbuiltin]
  refine (Agree.refl (R := Eq) .refl (fun _ => rfl) _).bind fun _ _ _ => ?_
  refine (Agree.refl (R := Eq) .refl (fun _ => rfl) _).bind fun _ _ _ => ?_
  exact (parseSamples_agree e f hxy h.samples).bind fun _ _ _ => .ok trivial

/-- **Checking.**  Entries that agree are checked with the same outcome. -/
theorem verify_agree {e f : Entry} (h : e.Alike w f) :
    SameOutcome (e.verify w).result (f.verify w).result := by
  simp only [verify, Logged.result_bind]
  exact h.provider.bind fun _ _ => verifyProvider_agree h.toAsksAlike

/-- The rest of the check of an entry comes to the same with either of two
libraries. -/
def SameWith (w : World) (e : Entry) (o o' : SharedObject) : Prop :=
  ∀ l l' : SharedLibrary, l.name = e.name → l'.name = e.name → l.object = o → l'.object = o' →
    SameOutcome (e.verifyProvider w l.provider).result (e.verifyProvider w l'.provider).result

/-- Entries that ask for the same are checked with two libraries to the same
outcome if the rest of the check comes to the same with either. -/
theorem sameWith_iff {e f : Entry} (h : e.AsksAlike w f) {l m : SharedLibrary}
    (hl : l.name = e.name) (hm : m.name = f.name) :
    e.SameWith w l.object m.object ↔
      SameOutcome (e.verifyProvider w l.provider).result
        (f.verifyProvider w m.provider).result := by
  have hm' : m.name = e.name := hm.trans h.name.symm
  have hlast : SameOutcome (e.verifyProvider w m.provider).result
      (f.verifyProvider w m.provider).result := verifyProvider_agree h (.refl _)
  constructor
  · intro hsame
    exact (hsame l m hl hm' rfl rfl).trans hlast
  · intro hsame l' m' hl' hm'' hobject hobject'
    have hfirst : SameOutcome (e.verifyProvider w l'.provider).result
        (e.verifyProvider w l.provider).result :=
      verifyProvider_agree (.refl e)
        (SharedLibrary.Alike.provider ⟨hl'.trans hl.symm, hobject⟩)
    have hrest : SameOutcome (e.verifyProvider w m.provider).result
        (e.verifyProvider w m'.provider).result :=
      verifyProvider_agree (.refl e)
        (SharedLibrary.Alike.provider ⟨hm'.trans hm''.symm, hobject'.symm⟩)
    exact ((hfirst.trans hsame).trans hlast.symm).trans hrest

end Config.Entry

end GrammarAudit
