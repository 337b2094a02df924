import GrammarAudit.Summary

/-!
# What a load and a parse come to

A load succeeds when the provider hands out a language of a version that can be
read; the parser's own check of the version asks the same again and never
refuses.  With a language that can be read, a text is parsed and its tree
summarized.

* `load_eq_ok_iff`, `load_eq_error_iff`: when a load succeeds and with which
  handle, and what it fails for.
* `Language.ParseFails`, `Language.exists_parseFails_iff`: why a text does not
  parse cleanly.
* `parseSample_eq_ok_iff`, `parseSample_eq_error_iff`: when the parse of a text
  succeeds, and what it fails for.
-/

namespace GrammarAudit

namespace Language

/-- A version can be read when it is neither older nor newer than those the
library accepts. -/
theorem isReadable_iff (l : Language) :
    l.isReadable = true ↔ 13 ≤ l.abiVersion ∧ l.abiVersion ≤ 15 := by
  rw [isReadable, Bool.and_eq_true, decide_eq_true_iff, decide_eq_true_iff]
  rfl

/-- The text has a tree, and this is its summary. -/
def Summarizes (l : Language) (text : String) (summary : Summary) : Prop :=
  ∃ tree, l.parse text = some tree ∧ tree.summarize = .ok summary

/-- The text parses cleanly: its tree is a stylesheet without an error. -/
def ParsesCleanly (l : Language) (text : String) : Prop :=
  ∃ tree, l.parse text = some tree ∧ tree.kind = "stylesheet" ∧ tree.label.hasError = false

/-- Why a text does not parse cleanly: there is no tree, or its root is not a
stylesheet, or it is one with an error. -/
inductive ParseFails (l : Language) (text : String) : ParseFault → Prop
  | noTree (hparse : l.parse text = none) : ParseFails l text .noTree
  | wrongRoot {tree : Tree} (hparse : l.parse text = some tree) (hkind : tree.kind ≠ "stylesheet") :
      ParseFails l text (.wrongRoot tree.kind)
  | syntaxError {tree : Tree} (hparse : l.parse text = some tree) (hkind : tree.kind = "stylesheet")
      (herror : tree.label.hasError = true) : ParseFails l text (.syntaxError tree.firstFault?)

end Language

/-- A tree has a summary exactly when it is a stylesheet without an error. -/
theorem Tree.exists_summarize_iff (t : Tree) :
    (∃ summary, t.summarize = .ok summary) ↔ t.kind = "stylesheet" ∧ t.label.hasError = false := by
  unfold Tree.summarize
  by_cases hkind : t.kind = "stylesheet"
  · cases herror : t.label.hasError with
    | true => simp [hkind, rootKind]
    | false => simp [hkind, rootKind]
  · simp [hkind, rootKind]

/-- A text has a summary exactly when it parses cleanly. -/
theorem Language.exists_summarizes_iff (l : Language) (text : String) :
    (∃ summary, l.Summarizes text summary) ↔ l.ParsesCleanly text := by
  constructor
  · intro h
    obtain ⟨summary, tree, hparse, hsummary⟩ := h
    exact ⟨tree, hparse, (tree.exists_summarize_iff).mp ⟨summary, hsummary⟩⟩
  · intro h
    obtain ⟨tree, hparse, hclean⟩ := h
    obtain ⟨summary, hsummary⟩ := (tree.exists_summarize_iff).mpr hclean
    exact ⟨summary, tree, hparse, hsummary⟩

/-- A text that does not parse cleanly does so for a reason, and only such a
text has one. -/
theorem Language.exists_parseFails_iff (l : Language) (text : String) :
    (∃ fault, l.ParseFails text fault) ↔ ¬ l.ParsesCleanly text := by
  constructor
  · intro hfails hclean
    obtain ⟨fault, hfails⟩ := hfails
    obtain ⟨tree, hparse, hkind, herror⟩ := hclean
    cases hfails with
    | noTree hnone => simp [hparse] at hnone
    | wrongRoot hother hroot =>
        obtain rfl := Option.some.inj (hparse.symm.trans hother)
        exact hroot hkind
    | syntaxError hother _ htrue =>
        obtain rfl := Option.some.inj (hparse.symm.trans hother)
        simp [herror] at htrue
  · intro hunclean
    cases hparse : l.parse text with
    | none => exact ⟨_, .noTree hparse⟩
    | some tree =>
        by_cases hkind : tree.kind = "stylesheet"
        · cases herror : tree.label.hasError with
          | false => exact absurd ⟨tree, hparse, hkind, herror⟩ hunclean
          | true => exact ⟨_, .syntaxError hparse hkind herror⟩
        · exact ⟨_, .wrongRoot hparse hkind⟩

/-- A handle whose language can be read has a parser. -/
theorem Handle.parser_eq_ok (h : Handle) (hread : h.language.isReadable = true) :
    h.parser = .ok ⟨h.language⟩ := by
  have hparser : h.language.parser = .ok ⟨h.language⟩ := by rw [Language.parser, if_pos hread]
  rw [Handle.parser, hparser]
  rfl

/-- A parser summarizes a text when the text has a summary. -/
theorem Parser.summarize_eq_ok_iff (p : Parser) (text : String) (summary : Summary) :
    p.summarize text = .ok summary ↔ p.language.Summarizes text summary := by
  unfold Parser.summarize Parser.parse Language.Summarizes
  cases p.language.parse text with
  | none => simp
  | some tree => simp

/-- A parser finds no summary of a text for the reason for which the text does
not parse cleanly. -/
theorem Parser.summarize_eq_error_iff (p : Parser) (text : String) (fault : ParseFault) :
    p.summarize text = .error fault ↔ p.language.ParseFails text fault := by
  unfold Parser.summarize Parser.parse Tree.summarize rootKind
  constructor
  · intro hfault
    cases hparse : p.language.parse text with
    | none =>
        obtain rfl : ParseFault.noTree = fault := by simpa [hparse] using hfault
        exact .noTree hparse
    | some tree =>
        by_cases hkind : tree.kind = "stylesheet"
        · cases herror : tree.label.hasError with
          | false => simp [hparse, hkind, herror] at hfault
          | true =>
              obtain rfl : ParseFault.syntaxError tree.firstFault? = fault := by
                simpa [hparse, hkind, herror] using hfault
              exact .syntaxError hparse hkind herror
        · obtain rfl : ParseFault.wrongRoot tree.kind = fault := by
            simpa [hparse, hkind] using hfault
          exact .wrongRoot hparse hkind
  · intro hfails
    cases hfails with
    | noTree hparse => simp [hparse]
    | wrongRoot hparse hkind => simp [hparse, hkind]
    | syntaxError hparse hkind herror => simp [hparse, hkind, herror]

/-- **Parsing a sample.**  A handle whose language can be read parses a text
successfully exactly when the text has a summary, and that is what it gives. -/
theorem Handle.parseSample_eq_ok_iff (h : Handle) (hread : h.language.isReadable = true)
    (text : String) (summary : Summary) :
    (h.parseSample text).result = .ok summary ↔ h.language.Summarizes text summary := by
  simp only [Handle.parseSample, Logged.result_bind_eq_ok, Logged.result_ofExcept,
    h.parser_eq_ok hread, mapError_eq_ok, Parser.summarize_eq_ok_iff, Logged.result_emit,
    Logged.result_pure]
  simp

/-- What a sample fails for: the handle has no parser, or the text has no
summary. -/
theorem Handle.parseSample_eq_error_iff (h : Handle) (text : String) (e : GrammarError) :
    (h.parseSample text).result = .error e ↔
      h.parser = .error e ∨
        ∃ p fault, h.parser = .ok p ∧ p.summarize text = .error fault ∧
          e = .parse h.name fault.message := by
  simp only [Handle.parseSample, Logged.result_bind_eq_error, Logged.result_ofExcept,
    Logged.result_emit, Logged.result_pure, mapError_eq_error]
  simp [eq_comm]

/-- **Refusing a sample.**  A handle whose language can be read refuses a text for
the reason for which the text does not parse cleanly. -/
theorem Handle.parseSample_eq_parse_iff (h : Handle) (hread : h.language.isReadable = true)
    (text : String) (e : GrammarError) :
    (h.parseSample text).result = .error e ↔
      ∃ fault, h.language.ParseFails text fault ∧ e = .parse h.name fault.message := by
  rw [h.parseSample_eq_error_iff, h.parser_eq_ok hread]
  simp [Parser.summarize_eq_error_iff]

/-- What the loading of a descriptor's language comes to. -/
theorem load_result (p : Provider) :
    (load p).result = p.descriptor.bind fun d =>
      match d.language with
      | none => .error (.absent p.display)
      | some language =>
        if language.isReadable then .ok ⟨language, p.name, p.display, p.source⟩
        else
          .error (.incompatibleVersion p.name language.abiVersion oldestVersion
            newestVersion) := by
  simp only [load, Logged.result_bind, Logged.result_emit, Logged.result_ofExcept]
  show p.descriptor.bind _ = p.descriptor.bind _
  congr 1
  funext d
  cases d.language with
  | none => simp [Except.bind]
  | some language =>
      by_cases hread : language.isReadable = true
      · have hparser := Handle.parser_eq_ok ⟨language, p.name, p.display, p.source⟩ hread
        simp [hread, hparser, Except.bind]
      · simp [hread, Except.bind]

/-- **Loading a language.**  A load succeeds exactly when the provider hands out
a language of a version that can be read; the handle is that language under the
provider's names. -/
theorem load_eq_ok_iff (p : Provider) (h : Handle) :
    (load p).result = .ok h ↔
      ∃ language dynamic, p.descriptor = .ok ⟨some language, dynamic⟩ ∧
        language.isReadable = true ∧ h = ⟨language, p.name, p.display, p.source⟩ := by
  rw [load_result]
  cases p.descriptor with
  | error e => simp [Except.bind]
  | ok d =>
      obtain ⟨pointer, dynamic⟩ := d
      cases pointer with
      | none => simp [Except.bind]
      | some language =>
          by_cases hread : language.isReadable = true
          · simp only [Except.bind, if_pos hread]
            constructor
            · intro hload
              exact ⟨language, dynamic, rfl, hread, (Except.ok.inj hload).symm⟩
            · intro hload
              obtain ⟨language', dynamic', hdescriptor, -, rfl⟩ := hload
              cases hdescriptor
              rfl
          · simp [Except.bind, hread]

/-- A handle has the names of the provider that it is made from. -/
theorem load_name_and_display {p : Provider} {h : Handle} (hload : (load p).result = .ok h) :
    h.name = p.name ∧ h.display = p.display := by
  obtain ⟨_, _, -, -, rfl⟩ := (load_eq_ok_iff p h).mp hload
  exact ⟨rfl, rfl⟩

/-- **Refusing a language.**  A load fails for what the provider says, for a
null pointer, or for a version that cannot be read. -/
theorem load_eq_error_iff (p : Provider) (e : GrammarError) :
    (load p).result = .error e ↔
      p.descriptor = .error e ∨
      (∃ dynamic, p.descriptor = .ok ⟨none, dynamic⟩ ∧ e = .absent p.display) ∨
      ∃ language dynamic, p.descriptor = .ok ⟨some language, dynamic⟩ ∧
        language.isReadable = false ∧
        e = .incompatibleVersion p.name language.abiVersion oldestVersion newestVersion := by
  rw [load_result]
  cases p.descriptor with
  | error e' => simp [Except.bind]
  | ok d =>
      obtain ⟨pointer, dynamic⟩ := d
      cases pointer with
      | none => simp [Except.bind, @eq_comm _ e]
      | some language =>
          by_cases hread : language.isReadable = true
          · simp [Except.bind, hread]
          · simp [Except.bind, hread, @eq_comm _ e]

end GrammarAudit
