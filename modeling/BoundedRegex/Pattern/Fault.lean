/-!
# Faults of patterns

Why a pattern is refused. Every cause has a fixed code, by which callers and texts know it.
-/
namespace BoundedRegex.Pattern

/-- A cause for which a pattern is refused. -/
inductive Cause where
  | trailingBackslash
  | trailingControl
  | unknownEscape
  | countsOutOfOrder
  | countTooLarge
  | unclosedClass
  | escapeNotInClass
  | rangeOutOfOrder
  | nothingToRepeat
  | unknownOption
  | namedClassOutside
  | collatingElement
  | unclosedGroup
  | unknownGroup
  | unclosedComment
  | nestingTooDeep
  | tooLarge
  | noMemory
  | unmatchedParenthesis
  | unclosedCondition
  | unboundedLookbehind
  | relativeZero
  | tooManyBranches
  | assertionExpected
  | digitExpected
  | unknownClassName
  | codePointTooLarge
  | lookbehindTooComplex
  | codeUnitInLookbehind
  | unsupportedEscape
  | calloutTooLarge
  | unclosedCallout
  /-- An unknown character after `(?P`. -/
  | unknownAfterP
  | unclosedName
  | duplicateName
  | nameStartsWithDigit
  | malformedProperty
  | unknownProperty
  | nameTooLong
  | tooManyNames
  | invalidRange
  | octalTooLarge
  | branchesInDefinition
  | octalWithoutBrace
  | malformedGroupEscape
  | unclosedWholeCall
  | unknownVerb
  | groupNumberTooLarge
  | nameExpected
  | notOctal
  | conflictingNames
  | markWithoutName
  | notHexadecimal
  | unprintableControl
  | malformedNameEscape
  | notNewlineInClass
  | surrogate
  | verbNameTooLong
  | digitsMissing
  | malformedVersion
  | unclosedCalloutText
  | unknownCalloutDelimiter
  | lookbehindTooLong
  | namedPointInBytes
  | invalidHyphen
  | unknownAssertion
  | tooManyGroups
  | startInLookaround
  | variableLookbehindTooLong
  deriving DecidableEq, Repr

def Cause.code : Cause → Int
  | .trailingBackslash => 101
  | .trailingControl => 102
  | .unknownEscape => 103
  | .countsOutOfOrder => 104
  | .countTooLarge => 105
  | .unclosedClass => 106
  | .escapeNotInClass => 107
  | .rangeOutOfOrder => 108
  | .nothingToRepeat => 109
  | .unknownOption => 111
  | .namedClassOutside => 112
  | .collatingElement => 113
  | .unclosedGroup => 114
  | .unknownGroup => 115
  | .unclosedComment => 118
  | .nestingTooDeep => 119
  | .tooLarge => 120
  | .noMemory => 121
  | .unmatchedParenthesis => 122
  | .unclosedCondition => 124
  | .unboundedLookbehind => 125
  | .relativeZero => 126
  | .tooManyBranches => 127
  | .assertionExpected => 128
  | .digitExpected => 129
  | .unknownClassName => 130
  | .codePointTooLarge => 134
  | .lookbehindTooComplex => 135
  | .codeUnitInLookbehind => 136
  | .unsupportedEscape => 137
  | .calloutTooLarge => 138
  | .unclosedCallout => 139
  | .unknownAfterP => 141
  | .unclosedName => 142
  | .duplicateName => 143
  | .nameStartsWithDigit => 144
  | .malformedProperty => 146
  | .unknownProperty => 147
  | .nameTooLong => 148
  | .tooManyNames => 149
  | .invalidRange => 150
  | .octalTooLarge => 151
  | .branchesInDefinition => 154
  | .octalWithoutBrace => 155
  | .malformedGroupEscape => 157
  | .unclosedWholeCall => 158
  | .unknownVerb => 160
  | .groupNumberTooLarge => 161
  | .nameExpected => 162
  | .notOctal => 164
  | .conflictingNames => 165
  | .markWithoutName => 166
  | .notHexadecimal => 167
  | .unprintableControl => 168
  | .malformedNameEscape => 169
  | .notNewlineInClass => 171
  | .surrogate => 173
  | .verbNameTooLong => 176
  | .digitsMissing => 178
  | .malformedVersion => 179
  | .unclosedCalloutText => 181
  | .unknownCalloutDelimiter => 182
  | .lookbehindTooLong => 187
  | .namedPointInBytes => 193
  | .invalidHyphen => 194
  | .unknownAssertion => 195
  | .tooManyGroups => 197
  | .startInLookaround => 199
  | .variableLookbehindTooLong => 200

/-- A refusal: the cause and the byte offset in the pattern where it was noticed. -/
structure Fault where
  cause : Cause
  offset : Nat
  deriving DecidableEq, Repr

end BoundedRegex.Pattern
