import Scaffold.Number.Decimal
import Scaffold.Time.Moment
import Scaffold.Text.Quoted

/-!
# YAML tokens and faults
-/

namespace Scaffold.Yaml

inductive ClockFault where
  | hour
  | minute
  | second
  /-- A distance of a day or more, in minutes. -/
  | offset (minutes : Int)

/-- Why a text gives no value. All but the first concern single scalars that are written as a kind
of value which they are not. -/
inductive Fault where
  /-- The text is no single document of known kinds of nodes. -/
  | malformed
  /-- An escape names a number beyond the last character. -/
  | noCharacter (code : Nat)
  | noTruth (word : String)
  | emptyNumber
  | noInteger (base : Nat) (text : String)
  | longInteger (digits : Nat)
  | noReal (text : String)
  | noMoment
  | date (fault : Date.Fault)
  | clock (fault : ClockFault)

def ClockFault.message : ClockFault → String
  | .hour => "hour must be in 0..23"
  | .minute => "minute must be in 0..59"
  | .second => "second must be in 0..59"
  | .offset minutes =>
    "offset must be a timedelta strictly between -timedelta(hours=24) and timedelta(hours=24), not " ++
      Moment.durationCall (minutes * 60000000) ++ "."

/-- How much of the literal of a text that is no whole number is quoted. -/
def quotedLength : Nat := 200

def Fault.message : Fault → String
  | .malformed => "Invalid YAML syntax"
  | .noCharacter code =>
    if code < Nat.pow 2 31 then "chr() arg not in range(0x110000)"
    else "Python int too large to convert to C int"
  | .noTruth word => Text.literal word
  | .emptyNumber => "string index out of range"
  | .noInteger base text =>
    "invalid literal for int() with base " ++ toString base ++ ": " ++
      String.ofList ((Text.literal text).toList.take quotedLength)
  | .longInteger digits => Decimal.tooLongMessage digits
  | .noReal text => "could not convert string to float: " ++ Text.literal text
  | .noMoment => "'NoneType' object has no attribute 'groupdict'"
  | .date fault => fault.message
  | .clock fault => fault.message

inductive Directive where
  | version (major : Nat)
  | tag (handle lead : String)
  | other

inductive Token where
  | directive (d : Directive)
  | documentStart
  | documentEnd
  | blockSequence
  | blockMapping
  | blockEnd
  | flowSequence
  | flowMapping
  | flowSequenceEnd
  | flowMappingEnd
  | blockEntry
  | flowEntry
  | key
  | value
  | alias (name : String)
  | anchor (name : String)
  /-- The handle that stands for the beginning of the tag, if there is one, and its end. -/
  | tag (handle : Option String) (suffix : String)
  | scalar (text : String) (plain : Bool)
  /-- The text cannot be cut into tokens from here on. -/
  | broken (fault : Fault)

end Scaffold.Yaml
