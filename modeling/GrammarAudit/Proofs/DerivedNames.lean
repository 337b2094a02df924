import GrammarAudit.Proofs.DirectorySource
import GrammarAudit.Proofs.PathSteps

/-!
# File names and symbols are derived in step

The symbol of a grammar and the file name of its library are made from the grammar's name
in the same way: dashes become underscores, and everything else keeps its place in a
fixed frame.  So both are shared by the same names, those that agree but for dashes.  A
file name joined to a directory stays below it, whatever the name is.

* `AgreeButDashes`, `mangle_eq_iff`: the names that are spelled the same.
* `symbolName_eq_iff`, `libraryName_eq_iff`: the frames lose nothing.
* `libraryPath_eq_iff`: one directory holds one file for each file name.
* `components_libraryPath`: where the library of a grammar is looked for.
* `names_derived_in_step`: all of this, and which entries share a library.
-/

namespace GrammarAudit

/-- The names are of the same length and have the same character at every place, where a
dash and an underscore are taken for the same. -/
def AgreeButDashes (a b : String) : Prop :=
  a.length = b.length ∧ ∀ (i : Nat) (c d : Char), a.toList[i]? = some c → b.toList[i]? = some d →
    c = d ∨ (c = '-' ∧ d = '_') ∨ (c = '_' ∧ d = '-')

/-- Two characters are spelled the same if they are the same, or a dash and an
underscore. -/
theorem underscored_eq_iff (c d : Char) :
    underscored c = underscored d ↔ c = d ∨ (c = '-' ∧ d = '_') ∨ (c = '_' ∧ d = '-') := by
  unfold underscored
  by_cases hc : c = '-'
  · by_cases hd : d = '-'
    · simp [hc, hd]
    · simp [hc, hd, eq_comm]
  · by_cases hd : d = '-'
    · simp [hc, hd]
    · simp [hc, hd]

@[simp] theorem toList_mangle (name : String) :
    (mangle name).toList = name.toList.map underscored := String.toList_ofList

/-- **Spelling.**  Two names are spelled the same exactly when they agree but for dashes. -/
theorem mangle_eq_iff (a b : String) : mangle a = mangle b ↔ AgreeButDashes a b := by
  rw [← String.toList_inj, toList_mangle, toList_mangle, AgreeButDashes, ← String.length_toList,
    ← String.length_toList]
  constructor
  · intro h
    refine ⟨by simpa using congrArg List.length h, fun i c d hc hd => ?_⟩
    have hplace := congrArg (·[i]?) h
    rw [← underscored_eq_iff]
    simpa [hc, hd] using hplace
  · intro h
    obtain ⟨hlength, hplaces⟩ := h
    refine List.ext_getElem (by simpa using hlength) fun i hi hi' => ?_
    rw [List.getElem_map, List.getElem_map, underscored_eq_iff]
    exact hplaces i _ _ (List.getElem?_eq_getElem _) (List.getElem?_eq_getElem _)

theorem toList_symbolName (name : String) :
    (symbolName name).toList = "tree_sitter_".toList ++ name.toList.map underscored := by
  rw [symbolName, String.toList_append, toList_mangle]

theorem toList_libraryName (name : String) :
    (libraryName name).toList = "lib".toList ++ name.toList.map underscored ++ ".so".toList := by
  rw [libraryName, String.toList_append, String.toList_append, toList_mangle]

/-- Two grammars have the same symbol exactly when their names agree but for dashes. -/
theorem symbolName_eq_iff (a b : String) : symbolName a = symbolName b ↔ AgreeButDashes a b := by
  rw [← mangle_eq_iff, ← String.toList_inj, ← String.toList_inj, toList_symbolName,
    toList_symbolName, toList_mangle, toList_mangle, List.append_cancel_left_eq]

/-- Two grammars have the same file name exactly when their names agree but for dashes. -/
theorem libraryName_eq_iff (a b : String) : libraryName a = libraryName b ↔ AgreeButDashes a b := by
  rw [← mangle_eq_iff, ← String.toList_inj, ← String.toList_inj, toList_libraryName,
    toList_libraryName, toList_mangle, toList_mangle, List.append_cancel_right_eq,
    List.append_cancel_left_eq]

/-- Spelling a name changes nothing about one that is spelled so already. -/
theorem mangle_mangle (name : String) : mangle (mangle name) = mangle name := by
  rw [← String.toList_inj, toList_mangle, toList_mangle, List.map_map]
  refine List.map_congr_left fun c _ => ?_
  unfold underscored
  by_cases hc : c = '-'
  · simp [hc]
  · simp [hc]

/-- No character is spelled as a dash. -/
theorem dash_not_mem_map_underscored (cs : List Char) : '-' ∉ cs.map underscored := by
  intro h
  obtain ⟨c, -, hc⟩ := List.mem_map.mp h
  unfold underscored at hc
  split at hc
  · simp at hc
  · next hne => exact hne hc

theorem dash_not_mem_symbolName (name : String) : '-' ∉ (symbolName name).toList := by
  rw [toList_symbolName, List.mem_append, not_or]
  exact ⟨by decide, dash_not_mem_map_underscored _⟩

theorem dash_not_mem_libraryName (name : String) : '-' ∉ (libraryName name).toList := by
  rw [toList_libraryName, List.mem_append, List.mem_append, not_or, not_or]
  exact ⟨⟨by decide, dash_not_mem_map_underscored _⟩, by decide⟩

theorem length_symbolName (name : String) : (symbolName name).length = 12 + name.length := by
  have hname : name.toList.length = name.length := String.length_toList
  rw [← String.length_toList, toList_symbolName, List.length_append, List.length_map, hname]
  rfl

theorem length_libraryName (name : String) : (libraryName name).length = 3 + name.length + 3 := by
  have hname : name.toList.length = name.length := String.length_toList
  rw [← String.length_toList, toList_libraryName, List.length_append, List.length_append,
    List.length_map, hname]
  rfl

/-- **Places are kept.**  In both frames the character of a name at a place stands at the
same distance from the start, a dash as an underscore. -/
theorem kept_place {name : String} {i : Nat} {c : Char} (h : name.toList[i]? = some c) :
    (symbolName name).toList[12 + i]? = some (underscored c) ∧
      (libraryName name).toList[3 + i]? = some (underscored c) := by
  have hmapped : (name.toList.map underscored)[i]? = some (underscored c) := by simp [h]
  have hlt : i < (name.toList.map underscored).length :=
    (List.getElem?_eq_some_iff.mp hmapped).1
  constructor
  · rw [toList_symbolName, List.getElem?_append_right (by simp)]
    simpa using hmapped
  · rw [toList_libraryName, List.append_assoc, List.getElem?_append_right (by simp),
      List.getElem?_append_left (by simpa using hlt)]
    simpa using hmapped

section LibraryPath

variable (name : String) (directory : Path)

/-- The text of a library's path is that of the directory and then the file name, after a
separator if the directory needs one. -/
theorem toList_libraryPath :
    (libraryPath name directory).text.toList
      = directory.text.toList ++ Path.gap directory.text.toList ++ (libraryName name).toList :=
  Path.join_toList directory (isRelative_libraryName name)

/-- In one directory two grammars have their library at the same path exactly when they
have the same file name for it. -/
theorem libraryPath_eq_iff (a b : String) :
    libraryPath a directory = libraryPath b directory ↔ libraryName a = libraryName b := by
  constructor
  · intro h
    have htext := congrArg (fun p : Path => p.text.toList) h
    simp only [toList_libraryPath, List.append_cancel_left_eq] at htext
    exact String.toList_inj.mp htext
  · intro h
    rw [libraryPath, libraryPath, h]

theorem lead_libraryName : Path.lead (libraryName name).toList = [] := by
  refine Path.lead_of_head ?_
  rw [toList_libraryName]
  simp

/-- **Where a library is looked for.**  Its path has the components of the directory, and
then those of the file name. -/
theorem components_libraryPath :
    (libraryPath name directory).components
      = directory.components ++ (Path.mk (libraryName name)).components :=
  Path.components_join directory (isRelative_libraryName name) (lead_libraryName name)

/-- A file name without a separator is one component, which is no step up. -/
theorem libraryName_is_name (hname : '/' ∉ name.toList) :
    '/' ∉ (libraryName name).toList ∧ ¬ Path.Stays (libraryName name).toList ∧
      (Path.mk (libraryName name)).components = [.name (libraryName name)] := by
  have hsep : '/' ∉ (libraryName name).toList := by
    rw [toList_libraryName]
    simp only [List.mem_append, List.mem_map, not_or]
    refine ⟨⟨by decide, ?_⟩, by decide⟩
    rintro ⟨c, hc, hsame⟩
    unfold underscored at hsame
    split at hsame
    · simp at hsame
    · exact hname (hsame ▸ hc)
  have hlong : 3 ≤ (libraryName name).toList.length := by
    rw [toList_libraryName]
    simp
  have hstays : ¬ Path.Stays (libraryName name).toList := by
    rintro (h | h)
    · simp [h] at hlong
    · simp [h] at hlong
  have hup : (libraryName name).toList ≠ ['.', '.'] := by
    intro h
    simp [h] at hlong
  refine ⟨hsep, hstays, ?_⟩
  have habsolute : (Path.mk (libraryName name)).isAbsolute = false := by
    simpa [Path.isRelative] using isRelative_libraryName name
  have hpiece : Path.Component.ofPiece? (libraryName name).toList
      = some (.name (libraryName name)) := by
    rw [Path.Component.ofPiece?, if_neg (show ¬ (_ ∨ _) from hstays), if_neg hup,
      String.ofList_toList]
  rw [Path.components_eq, habsolute, lead_libraryName, Path.steps_of_not_mem hsep, hpiece]
  rfl

end LibraryPath

namespace Config.Entry

variable {w : World} {e e' : Entry} {directory : Path}

/-- **Entries of one directory.**  What one of them supplies, the other one supplies from the
same library exactly when their names agree but for dashes. -/
theorem supplies_iff_agreeButDashes (hsource : e.source = .library directory)
    (hsource' : e'.source = .library directory)
    (hdirectory : w.files.isDirectory directory = true) {pointer : Option Language}
    {source : Source} (hsupplied : e.Supplies w pointer source) :
    e'.Supplies w pointer source ↔ AgreeButDashes e.name e'.name := by
  constructor
  · intro hother
    have hplace := hsupplied.source_of_isDirectory hsource hdirectory
    have hplace' := hother.source_of_isDirectory hsource' hdirectory
    have hsame : libraryPath e.name directory = libraryPath e'.name directory :=
      Source.library.inj (hplace.symm.trans hplace')
    rw [← libraryName_eq_iff, ← libraryPath_eq_iff directory]
    exact hsame
  · intro hnames
    have hpath : libraryPath e.name directory = libraryPath e'.name directory := by
      rw [libraryPath_eq_iff, libraryName_eq_iff]
      exact hnames
    have hsymbols : symbolName e.name = symbolName e'.name := (symbolName_eq_iff _ _).mpr hnames
    cases hsupplied with
    | linked hbuiltin _ => simp [hsource] at hbuiltin
    | @exported path file object _ hpathSource hfile hopen hsymbol =>
        obtain rfl := EntrySource.library.inj (hsource.symm.trans hpathSource)
        cases hfile with
        | itself hnot => simp [hdirectory] at hnot
        | inside _ hexists =>
            rw [hpath] at hexists hopen ⊢
            rw [hsymbols] at hsymbol
            exact .exported hsource' (.inside hdirectory hexists) hopen hsymbol

end Config.Entry

/-- **Derived in step.**  Two grammars share their symbol, and likewise the file name of
their library, exactly when their names agree but for dashes.  Neither has a dash; both keep
every other character of the name in its place, and are those of the name spelled with
underscores.  A file name joined to a directory stands below it, as a child if the name has
no separator.  Entries of one directory share library and symbol exactly when their names
agree but for dashes, and then what one of them supplies the other one does. -/
theorem names_derived_in_step (a b : String) :
    (symbolName a = symbolName b ↔ AgreeButDashes a b) ∧
    (libraryName a = libraryName b ↔ AgreeButDashes a b) ∧
    ('-' ∉ (symbolName a).toList ∧ '-' ∉ (libraryName a).toList) ∧
    ((symbolName a).length = 12 + a.length ∧ (libraryName a).length = 3 + a.length + 3) ∧
    (∀ (i : Nat) (c : Char), a.toList[i]? = some c →
      let kept := if c = '-' then '_' else c
      (symbolName a).toList[12 + i]? = some kept ∧ (libraryName a).toList[3 + i]? = some kept) ∧
    (symbolName (mangle a) = symbolName a ∧ libraryName (mangle a) = libraryName a) ∧
    (∀ directory : Path,
      directory.text.toList <+: (libraryPath a directory).text.toList ∧
      (libraryPath a directory).isAbsolute = directory.isAbsolute ∧
      (libraryPath a directory).components
        = directory.components ++ (Path.mk (libraryName a)).components ∧
      ('/' ∉ a.toList →
        (libraryPath a directory).components
          = directory.components ++ [.name (libraryName a)] ∧
        ∃ parent, (libraryPath a directory).parent? = some parent ∧
          parent.equivalent directory = true)) ∧
    ∀ (w : World) (e e' : Config.Entry) (directory : Path), e.name = a → e'.name = b →
      e.source = .library directory → e'.source = .library directory →
      w.files.isDirectory directory = true →
      (libraryPath e.name directory = libraryPath e'.name directory ∧
          symbolName e.name = symbolName e'.name ↔ AgreeButDashes a b) ∧
        ∀ pointer source, e.Supplies w pointer source →
          (e'.Supplies w pointer source ↔ AgreeButDashes a b) := by
  refine ⟨symbolName_eq_iff a b, libraryName_eq_iff a b,
    ⟨dash_not_mem_symbolName a, dash_not_mem_libraryName a⟩,
    ⟨length_symbolName a, length_libraryName a⟩, fun i c hc => kept_place hc, ⟨?_, ?_⟩,
    fun directory => ⟨?_, ?_, ?_, fun hname => ?_⟩, ?_⟩
  · rw [symbolName, mangle_mangle, symbolName]
  · rw [libraryName, mangle_mangle, libraryName]
  · rw [toList_libraryPath, List.append_assoc]
    exact List.prefix_append _ _
  · exact Path.isAbsolute_join directory (isRelative_libraryName a)
  · exact components_libraryPath a directory
  · obtain ⟨hsep, hstays, hchild⟩ := libraryName_is_name a hname
    obtain ⟨parent, hparent, hsame⟩ := Path.exists_parent_join directory hsep hstays
    refine ⟨?_, parent, hparent, ?_⟩
    · rw [components_libraryPath, hchild]
    · rw [Path.equivalent, hsame, beq_self_eq_true]
  · rintro w e e' directory rfl rfl hsource hsource' hdirectory
    refine ⟨?_, fun pointer source hsupplied =>
      Config.Entry.supplies_iff_agreeButDashes hsource hsource' hdirectory hsupplied⟩
    rw [libraryPath_eq_iff, libraryName_eq_iff, symbolName_eq_iff, and_self]

/-- Two entries of one directory whose names differ in a dash have one library. -/
theorem dashed_names_share_library :
    let language : Language := ⟨14, [], fun _ => none⟩
    let library : Node := .file (.library ⟨[("tree_sitter_m_x", some language)]⟩)
    let w : World := {
      files := ⟨.directory [("d", .directory [("libm_x.so", library)])], [], []⟩
      environment := ⟨[]⟩
      linked := language }
    let source : Source := .library ⟨"/d/libm_x.so"⟩
    (Config.Entry.ofLibrary "m-x" ⟨"/d"⟩).Supplies w (some language) source ∧
      (Config.Entry.ofLibrary "m_x" ⟨"/d"⟩).Supplies w (some language) source := by
  intro language library w source
  have hinside : libraryPath "m-x" ⟨"/d"⟩ = ⟨"/d/libm_x.so"⟩ := by decide
  have hsymbol : symbolName "m-x" = "tree_sitter_m_x" := by decide
  have hdirectory : w.files.isDirectory ⟨"/d"⟩ = true := by rfl
  have hfile : Config.Entry.LibraryFile w.files "m-x" ⟨"/d"⟩ ⟨"/d/libm_x.so"⟩ := by
    rw [← hinside]
    refine .inside hdirectory ?_
    rw [hinside]
    rfl
  have hexported : SharedObject.symbol? ⟨[("tree_sitter_m_x", some language)]⟩ (symbolName "m-x")
      = some (some language) := by
    rw [hsymbol]
    rfl
  have hsupplied : (Config.Entry.ofLibrary "m-x" ⟨"/d"⟩).Supplies w (some language) source :=
    .exported rfl hfile rfl hexported
  obtain ⟨-, hlibrary, -, -, -, -, -, hentries⟩ := names_derived_in_step "m-x" "m_x"
  have hnames : AgreeButDashes "m-x" "m_x" := hlibrary.mp (by decide)
  obtain ⟨-, hshared⟩ := hentries w (.ofLibrary "m-x" ⟨"/d"⟩) (.ofLibrary "m_x" ⟨"/d"⟩) ⟨"/d"⟩
    rfl rfl rfl rfl hdirectory
  exact ⟨hsupplied, (hshared _ _ hsupplied).mpr hnames⟩

end GrammarAudit
