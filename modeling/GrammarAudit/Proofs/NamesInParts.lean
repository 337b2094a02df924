import GrammarAudit.CommandLine.Options

/-!
# Names given in parts

The names of the grammars to check can be given in one argument or in several,
each part after an equals sign or in an argument of its own.  Which way is taken
changes nothing about what the arguments ask for: the names stand between those
that other arguments give before and after them.

* `GivesNames`: the arguments that give some names.
* `ReadsOption`, `readsArgument`: what the reading of an argument depends on.
* `readAll_withEarlier`: names given earlier go through all that is read later.
* `exists_readAll_append`: arguments are read in the same way whatever follows.
* `optionsOf_givesNames`, `parse_givesNames`: what arguments that give names add to
  a command line.
-/

namespace GrammarAudit.CommandLine

/-- Arguments that give names: each part of them, joined by commas, follows the
option, after an equals sign or as the next argument. -/
inductive GivesNames : List String → List String → Prop
  | joined {names : List String} (hnames : names ≠ [])
      (hcomma : ∀ name ∈ names, ',' ∉ name.toList) :
      GivesNames names ["--only=" ++ ",".intercalate names]
  | apart {names : List String} (hnames : names ≠ [])
      (hcomma : ∀ name ∈ names, ',' ∉ name.toList)
      (hvalue : (",".intercalate names).toList.head? ≠ some '-') :
      GivesNames names ["--only", ",".intercalate names]
  | append {names names' args args' : List String} (h : GivesNames names args)
      (h' : GivesNames names' args') : GivesNames (names ++ names') (args ++ args')

/-- There is an argument if names are given. -/
theorem GivesNames.args_ne_nil {names args : List String} (h : GivesNames names args) :
    args ≠ [] := by
  induction h with
  | joined => simp
  | apart => simp
  | append h h' ih ih' => simp [ih]

/-- The long name of an option that takes a value. -/
def Setting.longName : Setting → String
  | .config => "config"
  | .library => "library"
  | .only => "only"
  | .sample => "sample"

theorem Setting.lookup_longName (s : Setting) :
    longNames.lookup s.longName = some (.setting s) := by
  cases s <;> decide

/-- Names without a comma are what a text splits into that has them between
commas. -/
theorem splitCommas_intercalate {names : List String} (hnames : names ≠ [])
    (hcomma : ∀ name ∈ names, ',' ∉ name.toList) :
    splitCommas (",".intercalate names) = names := by
  have hsplit : (",".intercalate names).toList.splitOn ',' = names.map String.toList := by
    rw [String.toList_intercalate]
    exact List.splitOn_intercalate ',' (by simpa using hcomma) (by simpa using hnames)
  rw [splitCommas, hsplit, List.map_map]
  simp [Function.comp_def]

namespace Options

/-- The same options with names before those they have. -/
def withEarlier (names : List String) (o : Options) : Options :=
  { o with only := some (names ++ o.only.getD []) }

/-- Taking in a value leaves the names given earlier in front. -/
theorem set_withEarlier (names : List String) (o : Options) (s : Setting) (value : String) :
    (o.withEarlier names).set s value = (o.set s value).map (withEarlier names) := by
  cases s with
  | only => simp [set, withEarlier, Except.map]
  | config =>
      unfold set
      by_cases hgiven : o.config.isSome = true
      · simp [withEarlier, hgiven, Except.map]
      · cases pathValue value <;> simp [withEarlier, hgiven, Except.map]
  | library =>
      unfold set
      by_cases hgiven : o.library.isSome = true
      · simp [withEarlier, hgiven, Except.map]
      · cases pathValue value <;> simp [withEarlier, hgiven, Except.map]
  | sample =>
      unfold set
      cases pathValue value <;> simp [withEarlier, Except.map]

end Options

namespace Progress

/-- The same progress with names before those that have been given. -/
def withEarlier (names : List String) (p : Progress) : Progress :=
  { p with options := p.options.withEarlier names }

/-- A way to read an option.  It refuses the option whatever came before, or it
takes in the option that is noted and goes on from there, to which names given
earlier make no difference. -/
inductive ReadsOption (f : Progress → Except Refusal Progress) : Prop
  | refused (e : Refusal) (hf : ∀ p, f p = .error e)
  | settled (g : Options → Except Refusal Progress) (hf : ∀ p, f p = p.settle.bind g)
      (hg : ∀ names o, g (o.withEarlier names) = (g o).map (withEarlier names))

section Options

theorem readsOption_await (s : Setting) : ReadsOption fun p => p.await s := by
  refine .settled (fun options => .ok ⟨options, some (s, none)⟩) (fun p => ?_) fun _ _ => rfl
  rw [await]
  cases p.settle with
  | error e => rfl
  | ok options => rfl

theorem readsOption_take (s : Setting) (value : String) : ReadsOption fun p => p.take s value := by
  refine .settled _ (fun _ => rfl) fun names o => ?_
  rw [o.set_withEarlier]
  cases o.set s value with
  | error e => rfl
  | ok options => rfl

theorem readsOption_flag (f : Flag) : ReadsOption fun p => p.flag f := by
  refine .settled _ (fun _ => rfl) fun names o => ?_
  cases f with
  | verbose =>
      cases hverbose : o.verbose with
      | true => simp [Options.withEarlier, hverbose, Except.map]
      | false => simp [Options.withEarlier, withEarlier, hverbose, Except.map]
  | help => rfl
  | version => rfl

/-- Names given earlier stay in front when the option that is noted is taken
in. -/
theorem settle_withEarlier (names : List String) (p : Progress) :
    (p.withEarlier names).settle = p.settle.map (Options.withEarlier names) := by
  obtain ⟨options, pending⟩ := p
  rcases pending with _ | ⟨s, _ | value⟩
  · rfl
  · rfl
  · exact options.set_withEarlier names s value

theorem value_withEarlier (names : List String) (p : Progress) (text : String) :
    (p.withEarlier names).value text = (p.value text).map (withEarlier names) := by
  obtain ⟨options, pending⟩ := p
  rcases pending with _ | ⟨s, _ | value⟩
  · rfl
  · rfl
  · rfl

/-- Names given earlier make no difference to the reading of an option. -/
theorem ReadsOption.withEarlier {f : Progress → Except Refusal Progress} (h : ReadsOption f)
    (names : List String) (p : Progress) :
    f (p.withEarlier names) = (f p).map (Progress.withEarlier names) := by
  cases h with
  | refused e hf => rw [hf, hf]; rfl
  | settled g hf hg =>
      rw [hf, hf, settle_withEarlier]
      cases p.settle with
      | error e => rfl
      | ok options => exact hg names options

/-- An option is read in the same way where the one that is noted comes to the
same. -/
theorem ReadsOption.congr {f : Progress → Except Refusal Progress} (h : ReadsOption f)
    {p q : Progress} (hsettle : p.settle = q.settle) : f p = f q := by
  cases h with
  | refused e hf => rw [hf, hf]
  | settled g hf _ => rw [hf, hf, hsettle]

/-- Two options in one argument are read like one. -/
theorem ReadsOption.bind {f f' : Progress → Except Refusal Progress} (h : ReadsOption f)
    (h' : ReadsOption f') : ReadsOption fun p => (f p).bind f' := by
  cases h with
  | refused e hf => exact .refused e fun p => by rw [hf]; rfl
  | settled g hf hg =>
      refine .settled (fun o => (g o).bind f') (fun p => ?_) fun names o => ?_
      · rw [hf]
        cases p.settle with
        | error e => rfl
        | ok options => rfl
      · rw [hg]
        cases g o with
        | error e => rfl
        | ok q => exact h'.withEarlier names q

theorem readsOption_long (text : List Char) : ReadsOption fun p => p.long text := by
  unfold long
  generalize text.span (· ≠ '=') = parts
  obtain ⟨name, rest⟩ := parts
  simp only
  -- one case for each way in which a long name and what follows it are read
  split
  · exact .refused _ fun _ => rfl
  · exact readsOption_take _ _
  · exact readsOption_await _
  · exact .refused _ fun _ => rfl
  · exact readsOption_flag _

/-- A short option and what follows it in an argument are read like one
option. -/
theorem readsOption_short_cons (c : Char) {text : List Char}
    (htext : text = [] ∨ ReadsOption fun p => p.short text) :
    ReadsOption fun p => p.short (c :: text) := by
  unfold short
  split
  · exact .refused _ fun _ => rfl
  · exact readsOption_await _
  · exact readsOption_take _ _
  · exact readsOption_take _ _
  · rename_i f _
    rcases htext with rfl | htext
    · have hlast : (fun p : Progress => (p.flag f).bind fun p => p.short [])
          = fun p => p.flag f := by
        funext p
        cases p.flag f with
        | error e => rfl
        | ok q => rfl
      rw [hlast]
      exact readsOption_flag f
    · exact (readsOption_flag f).bind htext

/-- All short options in an argument are read like one.  The induction is on the
argument. -/
theorem readsOption_short (c : Char) (text : List Char) :
    ReadsOption fun p => p.short (c :: text) := by
  induction text generalizing c with
  | nil => exact readsOption_short_cons c (Or.inl rfl)
  | cons d text ih => exact readsOption_short_cons c (Or.inr (ih d))

end Options

/-- How an argument is read: it ends the options, or it is an option, or it is
taken for a value. -/
inductive ReadsArgument (arg : String) : Prop
  | last (hread : ∀ p rest, rest ≠ [] → readAll p (arg :: rest) = .error .unknownArgument)
      (halone : ∀ p, readAll p [arg] = .ok p)
  | option (f : Progress → Except Refusal Progress) (hf : ReadsOption f)
      (hread : ∀ p rest, readAll p (arg :: rest) = (f p).bind fun q => readAll q rest)
  | value (hread : ∀ p rest, readAll p (arg :: rest) = (p.value arg).bind fun q => readAll q rest)

theorem readsArgument (arg : String) : ReadsArgument arg := by
  rcases hchars : arg.toList with _ | ⟨c, _ | ⟨d, text⟩⟩
  · exact .value fun p rest => by simp only [readAll, hchars]
  · exact .value fun p rest => by simp only [readAll, hchars]
  · by_cases hc : c = '-'
    · subst hc
      by_cases hd : d = '-'
      · subst hd
        cases text with
        | nil =>
            refine .last (fun p rest hrest => ?_) fun p => ?_
            · simp [readAll, hchars, hrest]
            · simp [readAll, hchars]
        | cons e text =>
            refine .option _ (readsOption_long (e :: text)) fun p rest => ?_
            simp [readAll, hchars]
      · refine .option _ (readsOption_short d text) fun p rest => ?_
        simp [readAll, hchars, hd]
    · exact .value fun p rest => by simp [readAll, hchars, hc]

/-- Names given earlier make no difference to the reading of the arguments. -/
theorem readAll_withEarlier (names : List String) (p : Progress) (args : List String) :
    readAll (p.withEarlier names) args = (readAll p args).map (withEarlier names) := by
  induction args generalizing p with
  | nil => rfl
  | cons arg rest ih =>
      cases readsArgument arg with
      | last hread halone =>
          cases rest with
          | nil => rw [halone, halone]; rfl
          | cons next rest => rw [hread _ _ (by simp), hread _ _ (by simp)]; rfl
      | option f hf hread =>
          rw [hread, hread, hf.withEarlier]
          cases f p with
          | error e => rfl
          | ok q => exact ih q
      | value hread =>
          rw [hread, hread, value_withEarlier]
          cases p.value arg with
          | error e => rfl
          | ok q => exact ih q

/-- The options that the arguments come to after what has been read. -/
def optionsOf (p : Progress) (args : List String) : Except Refusal Options :=
  (p.readAll args).bind settle

theorem optionsOf_withEarlier (names : List String) (p : Progress) (args : List String) :
    optionsOf (p.withEarlier names) args
      = (optionsOf p args).map (Options.withEarlier names) := by
  rw [optionsOf, optionsOf, readAll_withEarlier]
  cases p.readAll args with
  | error e => rfl
  | ok q => exact settle_withEarlier names q

/-- It makes no difference whether an option that has its value is taken in at
once or with the next argument. -/
theorem optionsOf_congr {p q : Progress} (hsettle : p.settle = q.settle)
    (hp : ∀ s, p.pending ≠ some (s, none)) (hq : ∀ s, q.pending ≠ some (s, none))
    (args : List String) : optionsOf p args = optionsOf q args := by
  have hvalue : ∀ (p : Progress) (text : String), (∀ s, p.pending ≠ some (s, none)) →
      p.value text = .error .unknownArgument := by
    intro p text hp
    obtain ⟨options, pending⟩ := p
    rcases pending with _ | ⟨s, _ | value⟩
    · rfl
    · exact absurd rfl (hp s)
    · rfl
  cases args with
  | nil => exact hsettle
  | cons arg rest =>
      unfold optionsOf
      cases readsArgument arg with
      | last hread halone =>
          cases rest with
          | nil => rw [halone, halone]; exact hsettle
          | cons next rest => rw [hread _ _ (by simp), hread _ _ (by simp)]
      | option f hf hread => rw [hread, hread, hf.congr hsettle]
      | value hread => rw [hread, hread, hvalue p arg hp, hvalue q arg hq]

/-- Some arguments are read in the same way whatever follows them, as long as
something does.  The induction is on these arguments. -/
theorem exists_readAll_append (p : Progress) (before : List String) :
    ∃ r : Except Refusal Progress, ∀ rest, rest ≠ [] →
      readAll p (before ++ rest) = r.bind fun q => readAll q rest := by
  induction before generalizing p with
  | nil => exact ⟨.ok p, fun _ _ => rfl⟩
  | cons arg before ih =>
      have hstep : ∀ r : Except Refusal Progress, ∃ r' : Except Refusal Progress,
          ∀ rest, rest ≠ [] → (r.bind fun q => readAll q (before ++ rest))
            = r'.bind fun q => readAll q rest := by
        intro r
        cases r with
        | error e => exact ⟨.error e, fun _ _ => rfl⟩
        | ok q => exact ih q
      cases readsArgument arg with
      | last hread _ =>
          refine ⟨.error .unknownArgument, fun rest hrest => ?_⟩
          exact hread p (before ++ rest) (by simp [hrest])
      | option f _ hread =>
          obtain ⟨r, hr⟩ := hstep (f p)
          exact ⟨r, fun rest hrest => (hread p _).trans (hr rest hrest)⟩
      | value hread =>
          obtain ⟨r, hr⟩ := hstep (p.value arg)
          exact ⟨r, fun rest hrest => (hread p _).trans (hr rest hrest)⟩

/-- The value of an option after an equals sign is taken in with it. -/
theorem readAll_joined (p : Progress) (s : Setting) (value : String) (rest : List String) :
    p.readAll (("--" ++ s.longName ++ "=" ++ value) :: rest)
      = (p.take s value).bind fun q => q.readAll rest := by
  have hchars : ("--" ++ s.longName ++ "=" ++ value).toList
      = '-' :: '-' :: (s.longName.toList ++ '=' :: value.toList) := by simp
  have hspan : (s.longName.toList ++ '=' :: value.toList).span (· ≠ '=')
      = (s.longName.toList, '=' :: value.toList) := by cases s <;> rfl
  have hlong : p.readAll (("--" ++ s.longName ++ "=" ++ value) :: rest)
      = (p.long (s.longName.toList ++ '=' :: value.toList)).bind fun q => q.readAll rest := by
    simp only [readAll, hchars]
    cases s <;> rfl
  rw [hlong]
  simp only [long, hspan, String.ofList_toList, s.lookup_longName]

theorem readAll_only_joined (p : Progress) (value : String) (rest : List String) :
    p.readAll (("--only=" ++ value) :: rest)
      = (p.take .only value).bind fun q => q.readAll rest :=
  p.readAll_joined .only value rest

theorem readAll_only_apart {value : String} (hvalue : value.toList.head? ≠ some '-')
    (p : Progress) (rest : List String) :
    p.readAll ("--only" :: value :: rest)
      = (p.await .only).bind fun q => (q.value value).bind fun q => q.readAll rest := by
  have hfirst : p.readAll ("--only" :: value :: rest)
      = (p.await .only).bind fun q => q.readAll (value :: rest) := by rfl
  have hsecond : ∀ q : Progress, q.readAll (value :: rest)
      = (q.value value).bind fun q => q.readAll rest := by
    intro q
    rcases hchars : value.toList with _ | ⟨c, more⟩
    · simp only [readAll, hchars]
    · have hc : c ≠ '-' := by simpa [hchars] using hvalue
      simp [readAll, hchars, hc]
  simp only [hfirst, hsecond]

end Progress

/-- The same options with names after those they have. -/
def Options.withNames (names : List String) (o : Options) : Options :=
  { o with only := some (o.only.getD [] ++ names) }

/-- **Reading names.**  Arguments that give names add them to those given so far,
in order, after the option that is noted has been taken in.  The induction is on
the parts in which the names are given. -/
theorem optionsOf_givesNames {names args : List String} (h : GivesNames names args)
    (p : Progress) (rest : List String) :
    p.optionsOf (args ++ rest)
      = p.settle.bind fun o => Progress.optionsOf ⟨o.withNames names, none⟩ rest := by
  induction h generalizing p rest with
  | @joined names hnames hcomma =>
      rw [Progress.optionsOf, List.singleton_append, Progress.readAll_only_joined, Progress.take]
      cases p.settle with
      | error e => rfl
      | ok o =>
          simp only [Except.bind, Except.map, Options.set, splitCommas_intercalate hnames hcomma]
          rfl
  | @apart names hnames hcomma hvalue =>
      rw [Progress.optionsOf, List.cons_append, List.singleton_append,
        Progress.readAll_only_apart hvalue, Progress.await]
      cases p.settle with
      | error e => rfl
      | ok o =>
          have hsettle : Progress.settle ⟨o, some (.only, some (",".intercalate names))⟩
              = Progress.settle ⟨o.withNames names, none⟩ := by
            simp only [Progress.settle, Options.set, splitCommas_intercalate hnames hcomma]
            rfl
          exact Progress.optionsOf_congr hsettle (by simp) (by simp) rest
  | @append names names' args args' h h' ih ih' =>
      rw [List.append_assoc, ih]
      cases p.settle with
      | error e => rfl
      | ok o =>
          show Progress.optionsOf ⟨o.withNames names, none⟩ (args' ++ rest) = _
          rw [ih']
          simp [Progress.settle, Except.bind, Options.withNames]

/-- A config and a library exclude one another. -/
def Options.checkConflict (o : Options) : Except Refusal Options :=
  if o.config.isSome && o.library.isSome then .error .argumentConflict else .ok o

theorem parse_eq (args : List String) :
    parse args = (Progress.optionsOf ⟨.unset, none⟩ args).bind Options.checkConflict := by
  show (((Progress.readAll ⟨.unset, none⟩ args).bind fun p => p.settle.bind
    fun o => if o.config.isSome && o.library.isSome then .error .argumentConflict else .ok o)) = _
  unfold Progress.optionsOf
  cases Progress.readAll ⟨.unset, none⟩ args with
  | error e => rfl
  | ok p => rfl

/-- **Names on a command line.**  Where arguments give names, among any others,
they are put after the names that are given before them and in front of those that
are given after them.  Nothing else depends on them, nor on how they are given. -/
theorem parse_givesNames (before after : List String) :
    ∃ r : Except Refusal (List String × Options), ∀ names args, GivesNames names args →
      parse (before ++ args ++ after)
        = r.map fun (earlier, o) => o.withEarlier (earlier ++ names) := by
  obtain ⟨first, hfirst⟩ := Progress.exists_readAll_append ⟨.unset, none⟩ before
  let rest (o : Options) : Except Refusal Options :=
    (Progress.optionsOf ⟨{ o with only := none }, none⟩ after).bind Options.checkConflict
  refine ⟨(first.bind Progress.settle).bind fun o =>
    (rest o).map fun later => (o.only.getD [], later), fun names args h => ?_⟩
  have hargs : args ++ after ≠ [] := by simp [h.args_ne_nil]
  rw [parse_eq, List.append_assoc, Progress.optionsOf, hfirst _ hargs]
  cases first with
  | error e => rfl
  | ok p =>
      show (p.optionsOf (args ++ after)).bind Options.checkConflict = _
      rw [optionsOf_givesNames h]
      simp only [Except.bind]
      cases p.settle with
      | error e => rfl
      | ok o =>
          have hearlier : (⟨o.withNames names, none⟩ : Progress)
              = Progress.withEarlier (o.only.getD [] ++ names) ⟨{ o with only := none }, none⟩ := by
            simp [Progress.withEarlier, Options.withEarlier, Options.withNames]
          simp only [Except.bind, hearlier, Progress.optionsOf_withEarlier, rest]
          cases Progress.optionsOf ⟨{ o with only := none }, none⟩ after with
          | error e => rfl
          | ok later =>
              by_cases hconflict : (later.config.isSome && later.library.isSome) = true
              · simp [Except.map, Options.checkConflict, Options.withEarlier, hconflict]
              · simp [Except.map, Options.checkConflict, Options.withEarlier, hconflict]

end GrammarAudit.CommandLine
