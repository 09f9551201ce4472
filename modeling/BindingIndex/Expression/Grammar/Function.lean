import BindingIndex.Expression.Grammar.Basic

/-!
# Functions

A function without a name has parameters: those that are never named come before a slash, those that
are always named behind a star.

* `Grammar.parameters`, `Grammar.parameterFault`: the parameters and what is wrong with them.
* `Grammar.lambda`: a function.
-/

namespace BindingIndex.Expression.Grammar

open Rule

def parameterEnd : Rule Unit := sign "," <|> ahead (sign ":")

/-- The value that a parameter has by default. -/
def defaultValue : Rule Unit :=
  (do sign "="; discard expression) <|>
  explain (do
    sign "="
    ahead (sign ")" <|> sign ",")
    return some .missingDefault)

def parameter : Rule Unit := do discard name

def plainParameter : Rule Unit := do
  parameter
  parameterEnd

def defaultParameter : Rule Unit := do
  parameter
  defaultValue
  parameterEnd

def anyParameter : Rule Unit := do
  parameter
  discard (Rule.optional defaultValue)
  parameterEnd

/-- The slash behind parameters that are never named. -/
def slash : Rule Unit := do
  sign "/"
  parameterEnd

/-- Parameters up to a slash, none of them with a default. -/
def slashPlain : Rule Unit := do
  discard (oneOrMore plainParameter)
  slash

/-- Parameters up to a slash, the last ones with defaults. -/
def slashDefault : Rule Unit := do
  discard (many plainParameter)
  discard (oneOrMore defaultParameter)
  slash

def slashAny : Rule Unit := slashPlain <|> slashDefault

def doubleStarFault : Rule Unit := explain (
  (do
    sign "**"
    parameter
    sign "="
    return some .doubleStarWithDefault) <|>
  (do
    sign "**"
    parameter
    sign ","
    parameter
    return some .afterDoubleStar) <|>
  (do
    sign "**"
    parameter
    sign ","
    discard (anySign ["*", "**", "/"])
    return some .afterDoubleStar))

/-- A parameter for all named arguments. -/
def doubleStarParameter : Rule Unit :=
  doubleStarFault <|> (do sign "**"; plainParameter)

def starFault : Rule Unit := explain (
  (do
    sign "*"
    sign ":" <|> (do sign ","; sign ":" <|> sign "**")
    return some .starAlone) <|>
  (do
    sign "*"
    parameter
    sign "="
    return some .starWithDefault) <|>
  (do
    sign "*"
    plainParameter <|> sign ","
    discard (many anyParameter)
    sign "*"
    plainParameter <|> sign ","
    return some .starTwice))

/-- Parameters from the one with a star on. -/
def starParameters : Rule Unit :=
  starFault <|>
  (do
    sign "*"
    plainParameter
    discard (many anyParameter)
    discard (Rule.optional doubleStarParameter)) <|>
  (do
    sign "*"
    sign ","
    discard (oneOrMore anyParameter)
    discard (Rule.optional doubleStarParameter)) <|>
  doubleStarParameter

/-- The parameters of a function. -/
def parameters : Rule Unit :=
  (do
    slashPlain
    discard (many plainParameter)
    discard (many defaultParameter)
    discard (Rule.optional starParameters)) <|>
  (do
    slashDefault
    discard (many defaultParameter)
    discard (Rule.optional starParameters)) <|>
  (do
    discard (oneOrMore plainParameter)
    discard (many defaultParameter)
    discard (Rule.optional starParameters)) <|>
  (do
    discard (oneOrMore defaultParameter)
    discard (Rule.optional starParameters)) <|>
  starParameters

def parameterFault : Rule Unit := explain (
  (do
    discard (many plainParameter)
    slashDefault <|> (do discard (oneOrMore defaultParameter))
    plainParameter
    return some .defaultFirst) <|>
  (do
    discard (many plainParameter)
    sign "("
    discard (listed parameter)
    sign ")"
    return some .parenthesizedParameters) <|>
  (do
    sign "/"
    sign ","
    return some .slashFirst) <|>
  (do
    slashAny
    discard (many anyParameter)
    sign "/"
    return some .slashTwice) <|>
  (do
    discard (Rule.optional slashAny)
    discard (many anyParameter)
    sign "*"
    sign "," <|> plainParameter
    discard (many anyParameter)
    sign "/"
    return some .slashAfterStar) <|>
  (do
    discard (oneOrMore anyParameter)
    sign "/"
    sign "*"
    return some .slashThenStar))

def lambda : Rule Tree := do
  word "lambda"
  discard (Rule.optional (parameterFault <|> parameters))
  sign ":"
  discard expression
  return .lambda

end BindingIndex.Expression.Grammar
