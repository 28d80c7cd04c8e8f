import ColliderML.Datum.Literal

/-!
Errors: every way an operation of this library can fail, as a cause with its
data. `Error.message` words each cause, and `Error.kind` sorts the causes into
the few kinds a caller tells apart.
-/

namespace ColliderML

/-- The kinds of failure a caller tells apart. -/
inductive ErrorKind where
  /-- A value of the right type that the operation rejects. -/
  | badValue
  /-- A value of the wrong type, or a wrong call shape. -/
  | badType
  /-- A lookup by a key that is not there. -/
  | missingKey
  /-- A member that a value does not have. -/
  | missingMember
  /-- A position outside a sequence. -/
  | outOfRange
  /-- A division by zero. -/
  | divisionByZero
  /-- A failed internal check. -/
  | checkFailed
  /-- An operation the value does not provide. -/
  | notImplemented
  /-- A name read before it was given a value. -/
  | unboundName
  /-- A file that is not there. -/
  | missingFile
  /-- A file that is there but must not be. -/
  | fileExists
  /-- A directory where a file was expected. -/
  | isDirectory
  /-- Console markup that does not close properly. -/
  | badMarkup
  /-- An axis that an array does not have. -/
  | badAxis
  /-- An expression text that does not parse. -/
  | badSyntax
  /-- A name that an expression uses but nothing defines. -/
  | undefinedName
  /-- A measuring tool's setting that it cannot use. -/
  | badConfiguration
  /-- A request outside what the library accepts at all. -/
  | badRequest
  deriving DecidableEq, Repr

/-- The name a caller sees for a kind of failure: its exception class, or
`BadInput` for a request the library does not accept at all. -/
def ErrorKind.className : ErrorKind → String
  | .badValue => "ValueError"
  | .badType => "TypeError"
  | .missingKey => "KeyError"
  | .missingMember => "AttributeError"
  | .outOfRange => "IndexError"
  | .divisionByZero => "ZeroDivisionError"
  | .checkFailed => "AssertionError"
  | .notImplemented => "NotImplementedError"
  | .unboundName => "UnboundLocalError"
  | .missingFile => "FileNotFoundError"
  | .fileExists => "FileExistsError"
  | .isDirectory => "IsADirectoryError"
  | .badMarkup => "MarkupError"
  | .badAxis => "AxisError"
  | .badSyntax => "SyntaxError"
  | .undefinedName => "NameError"
  | .badConfiguration => "ConfigError"
  | .badRequest => "BadInput"

/-- The kinds of physics object, as names of their class. -/
inductive ObjectClass where
  | single
  | collective
  | nested
  | multiple
  deriving DecidableEq, Repr, Inhabited

def ObjectClass.name : ObjectClass → String
  | .single => "Single"
  | .collective => "Collective"
  | .nested => "Nested"
  | .multiple => "Multiple"

def ObjectClass.word : ObjectClass → String
  | .single => "single"
  | .collective => "collective"
  | .nested => "nested"
  | .multiple => "multiple"

inductive Error where
  /-- A text that is not a name of the given kind of physics object (of any kind for none). -/
  | invalidObjectName (kind : Option ObjectClass) (name : String)
  /-- A collective name valid once stripped but not as given. -/
  | unmatchedGroups
  /-- A name split into more parts than the expected number. -/
  | tooManyParts (expected : Nat)
  /-- A name split into fewer parts than the expected number. -/
  | tooFewParts (expected got : Nat)
  /-- A call without some required parameters. -/
  | missingParameters (callee : String) (names : List String)
  /-- A call with a parameter the callee does not have. -/
  | unexpectedParameter (callee : String) (name : String)
  /-- A call giving a parameter twice. -/
  | repeatedParameter (callee : String) (name : String)
  /-- A lookup of a class name that no table holds. -/
  | unknownName (name : String)
  /-- A lookup of a key that a table does not hold, with the key's literal text. -/
  | missingKey (literal : String)
  /-- Joining a text and a value of another kind. -/
  | textConcatenation (kind other : String)
  /-- Joining a list and a value of another kind. -/
  | listConcatenation (kind other : String)
  /-- An arithmetic operator applied to values it does not take. -/
  | unsupportedOperands (op : String) (left right : String)
  /-- A pattern matched against a value that is not a text. -/
  | notText (kind : String)
  /-- A member that a value does not have. -/
  | noMember (owner : String) (member : String)
  /-- A member missing from a record, named alone. -/
  | noField (member : String)
  /-- Iterating over a value that is not a collection. -/
  | notIterable (kind : String)
  /-- A collection value used as a key. -/
  | unhashable (kind : String)
  /-- A physics object of a kind the observable does not support, or none. -/
  | unsupportedObject
  /-- A text that names no observable. -/
  | invalidObservable (name : String)
  /-- A text that is not a base-ten integer literal. -/
  | invalidInteger (text : String)
  /-- A text that is not a decimal number literal. -/
  | invalidFloat (text : String)
  /-- A parameter read before any branch gave it a value. -/
  | unboundParameter (name : String)
  /-- An angular distance between other than two objects. -/
  | twoObjectsRequired
  /-- A failed check with an empty message. -/
  | failedCheck
  /-- A required value with an empty message. -/
  | rejected
  /-- An operation not provided for the value. -/
  | notProvided
  /-- A division by zero. -/
  | zeroDivision
  /-- A value of a kind that cannot be indexed. -/
  | notSubscriptable (kind : String)
  /-- A list index past the end. -/
  | listIndex
  /-- A text index past the end. -/
  | textIndex
  /-- A value of a kind that is not an integer where a count is needed. -/
  | notAnIndex (kind : String)
  /-- A negative number of grid points. -/
  | negativeCount (n : Int)
  /-- A value after a star that cannot be iterated. -/
  | notUnpackable (kind : String)
  /-- A name that a module does not define. -/
  | noModuleMember (module name : String)
  /-- A path that names nothing. -/
  | noSuchFile (path : String)
  /-- A path that names a directory where a file is read. -/
  | directoryNotFile (path : String)
  /-- A run without a banner file. -/
  | bannerMissing
  /-- An output directory that does not exist. -/
  | outputMissing (path : String)
  /-- A generator executable that cannot be found. -/
  | executableMissing (name : String)
  /-- A generator without an executable. -/
  | executableUnset
  /-- An event file format that is not read. -/
  | unsupportedFormat (format : String)
  /-- A closing markup tag that matches no open one, at a position. -/
  | unmatchedClosing (tag : String) (position : Nat)
  /-- An array indexed along more axes than it has. -/
  | tooManyIndices (ndim given : Nat)
  /-- An index outside an axis of an array. -/
  | indexBeyondAxis (index : Int) (axis size : Nat)
  /-- Arrays whose shapes (as written) do not broadcast together. -/
  | shapesMismatch (a b : String)
  /-- Nested sequences that are not rectangular: the axes found, and their lengths as written. -/
  | raggedSequence (dims : Nat) (shape : String)
  /-- An array of several elements used as one truth value. -/
  | ambiguousTruth
  /-- Joining no arrays. -/
  | emptyConcatenation
  /-- An axis outside the axes of an array. -/
  | axisBeyond (axis : Int) (ndim : Nat)
  /-- Taking elements from an empty axis. -/
  | emptyTake
  /-- An expression text that does not parse, with the reason; its message adds the place,
  line 1 of the evaluated text. -/
  | invalidSyntax (reason : String)
  /-- A name that nothing defines. -/
  | undefinedName (name : String)
  /-- A failure worded entirely by its message, with the kind it belongs to. -/
  | other (kind : ErrorKind) (message : String)
  /-- A request that the library does not accept at all. -/
  | badRequest (message : String)
  deriving Inhabited

namespace Error

def quotedList (names : List String) : String :=
  let q := names.map (fun n => "'" ++ n ++ "'")
  match q with
  | [] => ""
  | [a] => a
  | [a, b] => a ++ " and " ++ b
  | _ => String.intercalate ", " q.dropLast ++ ", and " ++ q.getLast!

def kind : Error → ErrorKind
  | .invalidObjectName .. => .badValue
  | .unmatchedGroups => .missingMember
  | .tooManyParts _ => .badValue
  | .tooFewParts .. => .badValue
  | .missingParameters .. => .badType
  | .unexpectedParameter .. => .badType
  | .repeatedParameter .. => .badType
  | .unknownName _ => .missingKey
  | .missingKey _ => .missingKey
  | .textConcatenation .. => .badType
  | .listConcatenation .. => .badType
  | .unsupportedOperands .. => .badType
  | .notText _ => .badType
  | .noMember .. => .missingMember
  | .noField _ => .missingMember
  | .notIterable _ => .badType
  | .unhashable _ => .badType
  | .unsupportedObject => .badValue
  | .invalidObservable _ => .badValue
  | .invalidInteger _ => .badValue
  | .invalidFloat _ => .badValue
  | .unboundParameter _ => .unboundName
  | .twoObjectsRequired => .checkFailed
  | .failedCheck => .checkFailed
  | .rejected => .badValue
  | .notProvided => .notImplemented
  | .zeroDivision => .divisionByZero
  | .notSubscriptable _ => .badType
  | .listIndex => .outOfRange
  | .textIndex => .outOfRange
  | .notAnIndex _ => .badType
  | .negativeCount _ => .badValue
  | .notUnpackable _ => .badType
  | .noModuleMember .. => .missingMember
  | .noSuchFile _ => .missingFile
  | .directoryNotFile _ => .isDirectory
  | .bannerMissing => .missingFile
  | .outputMissing _ => .missingFile
  | .executableMissing _ => .missingFile
  | .executableUnset => .missingMember
  | .unsupportedFormat _ => .badValue
  | .unmatchedClosing .. => .badMarkup
  | .tooManyIndices .. => .outOfRange
  | .indexBeyondAxis .. => .outOfRange
  | .shapesMismatch .. => .badValue
  | .raggedSequence .. => .badValue
  | .ambiguousTruth => .badValue
  | .emptyConcatenation => .badValue
  | .axisBeyond .. => .badAxis
  | .emptyTake => .outOfRange
  | .invalidSyntax _ => .badSyntax
  | .undefinedName _ => .undefinedName
  | .other k _ => k
  | .badRequest _ => .badRequest

def message : Error → String
  | .invalidObjectName (some k) n => "Invalid name '" ++ n ++ "' for a " ++ k.word ++ " physics object"
  | .invalidObjectName none n => "Invalid name '" ++ n ++ "' for a physics object"
  | .unmatchedGroups => "'NoneType' object has no attribute 'groups'"
  | .tooManyParts e => "too many values to unpack (expected " ++ toString e ++ ")"
  | .tooFewParts e g => "not enough values to unpack (expected " ++ toString e ++ ", got " ++ toString g ++ ")"
  | .missingParameters callee names =>
    let n := names.length
    callee ++ "() missing " ++ toString n ++ " required positional argument" ++
      (if n = 1 then "" else "s") ++ ": " ++ quotedList names
  | .unexpectedParameter callee name => callee ++ "() got an unexpected keyword argument '" ++ name ++ "'"
  | .repeatedParameter callee name => callee ++ "() got multiple values for keyword argument '" ++ name ++ "'"
  | .unknownName n => "'" ++ n ++ "'"
  | .missingKey lit => lit
  | .textConcatenation _ o => "can only concatenate str (not \"" ++ o ++ "\") to str"
  | .listConcatenation _ o => "can only concatenate list (not \"" ++ o ++ "\") to list"
  | .unsupportedOperands op l r => "unsupported operand type(s) for " ++ op ++ ": '" ++ l ++ "' and '" ++ r ++ "'"
  | .notText k => "expected string or bytes-like object, got '" ++ k ++ "'"
  | .noMember owner m => "'" ++ owner ++ "' object has no attribute '" ++ m ++ "'"
  | .noField m => m
  | .notIterable k => "'" ++ k ++ "' object is not iterable"
  | .unhashable k => "unhashable type: '" ++ k ++ "'"
  | .unsupportedObject => ""
  | .invalidObservable n => "Invalid '" ++ n ++ "' for an observable"
  | .invalidInteger t => "invalid literal for int() with base 10: " ++ quoteText t
  | .invalidFloat t => "could not convert string to float: " ++ quoteText t
  | .unboundParameter n => "cannot access local variable '" ++ n ++ "' where it is not associated with a value"
  | .twoObjectsRequired => "Two physics objects are required for angular distance"
  | .failedCheck => ""
  | .rejected => ""
  | .notProvided => ""
  | .zeroDivision => "division by zero"
  | .notSubscriptable k => "'" ++ k ++ "' object is not subscriptable"
  | .listIndex => "list index out of range"
  | .textIndex => "string index out of range"
  | .notAnIndex k => "'" ++ k ++ "' object cannot be interpreted as an integer"
  | .negativeCount n => "Number of samples, " ++ toString n ++ ", must be non-negative."
  | .notUnpackable k => "Value after * must be an iterable, not " ++ k
  | .noModuleMember m n => "module '" ++ m ++ "' has no attribute '" ++ n ++ "'"
  | .noSuchFile p => "[Errno 2] No such file or directory: " ++ quoteText p
  | .directoryNotFile p => "[Errno 21] Is a directory: " ++ quoteText p
  | .bannerMissing => "Banner file not found"
  | .outputMissing p => "Output directory " ++ p ++ " does not exist"
  | .executableMissing n => "Could not find Madgraph5 executable " ++ n
  | .executableUnset => "Madgraph5 executable not set yet"
  | .unsupportedFormat f => "File format " ++ f ++ " not supported yet."
  | .unmatchedClosing t p => "closing tag '" ++ t ++ "' at position " ++ toString p ++ " doesn't match any open tag"
  | .tooManyIndices n k =>
    "too many indices for array: array is " ++ toString n ++ "-dimensional, but " ++ toString k ++ " were indexed"
  | .indexBeyondAxis i a n =>
    "index " ++ toString i ++ " is out of bounds for axis " ++ toString a ++ " with size " ++ toString n
  | .shapesMismatch a b => "operands could not be broadcast together with shapes " ++ a ++ " " ++ b ++ " "
  | .raggedSequence n shape =>
    "setting an array element with a sequence. The requested array has an inhomogeneous shape after " ++
      toString n ++ " dimensions. The detected shape was " ++ shape ++ " + inhomogeneous part."
  | .ambiguousTruth =>
    "The truth value of an array with more than one element is ambiguous. Use a.any() or a.all()"
  | .emptyConcatenation => "need at least one array to concatenate"
  | .axisBeyond a n => "axis " ++ toString a ++ " is out of bounds for array of dimension " ++ toString n
  | .emptyTake => "cannot do a non-empty take from an empty axes."
  | .invalidSyntax r => r ++ " (<string>, line 1)"
  | .undefinedName n => "name '" ++ n ++ "' is not defined"
  | .other _ m => m
  | .badRequest m => m

end Error

abbrev Outcome (α : Type) := Except Error α

end ColliderML
