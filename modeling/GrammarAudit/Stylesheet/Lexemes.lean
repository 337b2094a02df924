import GrammarAudit.Rules.Rule

/-!
# Tokens of stylesheets

The tokens that are described by a pattern rather than spelled out.
-/

namespace GrammarAudit.Stylesheet.Lexemes

open Lexis Pattern

/-- One letter. -/
def letter : Pattern := .chars .letters

/-- One digit. -/
def digit : Pattern := .chars .digits

/-- A character that can start a name: a letter or an underscore. -/
def nameStart : Pattern := .chars (.letters ∪ .single '_')

/-- A character that can stand in a name: a letter, a digit, a hyphen or an
underscore. -/
def namePart : Pattern := .chars (.letters ∪ .digits ∪ .ofText "-_")

/-- A hyphen or underscore, or a letter: the characters of an at-keyword. -/
def keywordPart : Pattern := .chars (.letters ∪ .ofText "-_")

/-- The characters that end a plain value: spaces, brackets and the marks of a
declaration. -/
def valueEnd : CharSet := .spaces ∪ .ofText ",;!\x7b\x7d()[]"

/-- A keyframes keyword with a prefix. -/
def prefixedKeyframes : Pattern :=
  .all [.text "@", .plus (.chars (.range 'a' 'z' ∪ .single '-')), .text "keyframes"]

/-- The digits of a color. -/
def colorDigits : Pattern :=
  between 3 8 (.chars (.digits ∪ .range 'a' 'f' ∪ .range 'A' 'F'))

/-- The inside of a string with one of the quotes; a backslash takes any
character with it. -/
def quotedText (quote : Char) : Pattern :=
  star (.alt (noneOf (.ofText (String.ofList [quote, '\n'])))
    (.seq (.text "\\") (.alt (.chars .withinLine) (.text "\n"))))

/-- A sign or nothing. -/
def sign : Pattern := opt (.alt (.text "+") (.text "-"))

/-- Digits with a sign. -/
def integer : Pattern := .seq sign (.plus digit)

/-- The part of a number from the point on. -/
def fraction : Pattern := .seq (.text ".") (.plus digit)

/-- The exponent of a number. -/
def exponent : Pattern := .all [oneOf "eE", opt (.text "-"), .plus digit]

/-- A number with a fraction, an exponent or both. -/
def float : Pattern :=
  .all [sign, star digit, .any [fraction, exponent, .seq fraction exponent]]

/-- A unit: letters and percent signs. -/
def unit : Pattern := .plus (.chars (.letters ∪ .single '%'))

/-- A name. -/
def identifier : Pattern :=
  .seq (.alt (.text "--") (.seq (opt (.text "-")) nameStart)) (star namePart)

/-- A keyword with an at-sign. -/
def atKeyword : Pattern := .seq (.text "@") (.plus keywordPart)

/-- A comment up to the end of the line. -/
def lineComment : Pattern := .seq (.text "//") (star (.chars .withinLine))

/-- A comment between marks. -/
def blockComment : Pattern :=
  let toStars := .seq (star (noneOf (.single '*'))) (.plus (.text "*"))
  .all [.text "/*", toStars, star (.seq (noneOf (.ofText "/*")) toStars), .text "/"]

/-- A slash that starts no comment, with the character after it. -/
def slashPair : Pattern := .seq (.text "/") (noneOf (valueEnd ∪ .single '*'))

/-- A run of text that holds a letter. -/
def plainValue : Pattern :=
  .all [star (.alt (oneOf "-_") slashPair), letter,
    star (.alt (noneOf (valueEnd ∪ .single '/')) slashPair)]

/-- A variable, of a module if the name of one stands before it. -/
def variableName : Pattern :=
  .all [opt (.seq (.plus nameStart) (.text ".")), .text "$", keywordPart, star namePart]

end GrammarAudit.Stylesheet.Lexemes
