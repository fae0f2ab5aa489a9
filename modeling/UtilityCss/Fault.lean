import UtilityCss.Moment
import UtilityCss.Text.Quoted

namespace UtilityCss

inductive CalendarPart where
  | year (n : Nat)
  | month
  | day
  | hour
  | minute
  | second
  deriving DecidableEq

def CalendarPart.message : CalendarPart → String
  | year n => "year " ++ toString n ++ " is out of range"
  | month => "month must be in 1..12"
  | day => "day is out of range for month"
  | hour => "hour must be in 0..23"
  | minute => "minute must be in 0..59"
  | second => "second must be in 0..59"

inductive Nesting where
  | jsonLists
  | jsonObjects
  | tokens
  | others
  deriving DecidableEq

def Nesting.message : Nesting → String
  | jsonLists => "maximum recursion depth exceeded while decoding a JSON array from a unicode string"
  | jsonObjects => "maximum recursion depth exceeded while decoding a JSON object from a unicode string"
  | tokens => "maximum recursion depth exceeded while calling a Python object"
  | others => "maximum recursion depth exceeded"

inductive Fault where
  | notAnInteger (base : Nat) (text : String)
  | tooManyDigits (count : Nat)
  | notANumber (text : String)
  | emptyNumber
  | wholeTooLarge
  | quotientTooLarge
  | unknownCategory (name : String)
  | tooFewValues
  | tooManyValues
  | unknownStop (name : String)
  | alreadyRegistered (name : String)
  | outOfRange (part : CalendarPart)
  | offsetTooLarge (seconds : Int)
  | notAMoment
  | momentOfMap
  | unknownWord (word : String)
  | codeTooLarge
  | codeOutOfRange
  | tooDeep (nesting : Nesting)
  deriving DecidableEq

def Fault.shown (text : String) : String :=
  String.ofList ((Text.quoted text.toList).take 200)

def Fault.message : Fault → String
  | notAnInteger base text =>
    "invalid literal for int() with base " ++ toString base ++ ": " ++ shown text
  | tooManyDigits count =>
    "Exceeds the limit (" ++ toString Text.digitLimit ++ " digits) for integer string conversion: value has "
      ++ toString count ++ " digits; use sys.set_int_max_str_digits() to increase the limit"
  | notANumber text => "could not convert string to float: " ++ Text.quotedText text
  | emptyNumber => "string index out of range"
  | wholeTooLarge => "int too large to convert to float"
  | quotientTooLarge => "integer division result too large for a float"
  | unknownCategory name => "'Theme' object has no attribute " ++ Text.quotedText name
  | tooFewValues => "zip() argument 2 is shorter than argument 1"
  | tooManyValues => "zip() argument 2 is longer than argument 1"
  | unknownStop name => "Unknown gradient stop: " ++ name
  | alreadyRegistered name => "Utility prefix '" ++ name ++ "' is already registered"
  | outOfRange part => part.message
  | offsetTooLarge seconds =>
    "offset must be a timedelta strictly between -timedelta(hours=24) and timedelta(hours=24), not "
      ++ Moment.spanCall seconds ++ "."
  | notAMoment => "'NoneType' object has no attribute 'groupdict'"
  | momentOfMap => "expected string or bytes-like object, got 'list'"
  | unknownWord word => Text.quotedText word
  | codeTooLarge => "Python int too large to convert to C int"
  | codeOutOfRange => "chr() arg not in range(0x110000)"
  | tooDeep nesting => nesting.message

end UtilityCss
