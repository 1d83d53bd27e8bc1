/-
  Blueprint.Fault — why something was refused (`C4Error` with the classes under it, wherever one of them
  is raised).

  A `Fault` is a refusal of the domain: its constructor is the cause, and the class, the code, the
  message and the details that a caller sees are functions of it. A `Failure` is a fault, a list of
  places where data does not fit its model, or an `Accident`: an argument, a number or a file that the
  operation has no answer for.
-/

import Blueprint.Json.Value

namespace Blueprint

/-! ## Faults -/

inductive Fault where
  /-- The braces of a document do not balance. -/
  | unbalancedBraces (opened closed : Nat)
  /-- A candidate for a document: empty, without a workspace, or unbalanced. -/
  | emptyCandidate
  | candidateWithoutWorkspace
  | unbalancedCandidate (opened closed : Nat)
  | elementIdMissing
  | elementNameMissing (element : String)
  | relationshipIdMissing
  | relationshipDescriptionMissing (relationship : String)
  | viewIdMissing
  | workspaceNameMissing
  | elementKindUnknown (word : String)
  | sourceMissing (source : String)
  | targetMissing (target : String)
  | endpointMissing (endpoint : String)
  | anchorMissing (view anchor : String)
  | parentMissing (element parent : String)
  | selfReference (relationship : String)
  /-- A relationship of the model has a group at an end. -/
  | groupAtEnd (group relationship : String)
  /-- A relationship to or from a group is asked for. -/
  | groupAsEndpoint (group : String)
  | anchorOfWrongKind (view expected actual : String)
  | idIsFixed
  | nestedInItself
  | lastView
  | elementNotFound (element : String)
  | relationshipNotFound (relationship : String)
  | viewNotFound (view : String)
  | noWorkspace
  | noFilePath
  | fileNotFound (path : String)
  | unsupportedFile (shown : String)
  | invalidFile (path : String)
  deriving DecidableEq, Repr

inductive FaultClass where
  | document
  | candidate
  | missingField
  | unknownKind
  | danglingReference
  | selfReference
  | invalid
  | notFound
  | file
  deriving DecidableEq, Repr

namespace Fault

def classOf : Fault → FaultClass
  | unbalancedBraces .. => .document
  | emptyCandidate | candidateWithoutWorkspace | unbalancedCandidate .. => .candidate
  | elementIdMissing | elementNameMissing _ | relationshipIdMissing | relationshipDescriptionMissing _ | viewIdMissing
  | workspaceNameMissing => .missingField
  | elementKindUnknown _ => .unknownKind
  | sourceMissing _ | targetMissing _ | endpointMissing _ | anchorMissing .. | parentMissing .. => .danglingReference
  | selfReference _ => .selfReference
  | groupAtEnd .. | groupAsEndpoint _ | anchorOfWrongKind .. | idIsFixed | nestedInItself | lastView => .invalid
  | elementNotFound _ | relationshipNotFound _ | viewNotFound _ => .notFound
  | noWorkspace | noFilePath | fileNotFound _ | unsupportedFile _ | invalidFile _ => .file

def message : Fault → String
  | unbalancedBraces .. | unbalancedCandidate .. => "DSL has unbalanced braces"
  | emptyCandidate => "DSL content is empty"
  | candidateWithoutWorkspace => "DSL must contain a workspace definition"
  | elementIdMissing => "Element ID is required"
  | elementNameMissing _ => "Element name is required"
  | relationshipIdMissing => "Relationship ID is required"
  | relationshipDescriptionMissing _ => "Relationship description is required"
  | viewIdMissing => "View ID is required"
  | workspaceNameMissing => "Workspace name is required"
  | elementKindUnknown word => "Invalid element type: " ++ word
  | sourceMissing source => "Source element not found: " ++ source
  | targetMissing target => "Target element not found: " ++ target
  | endpointMissing endpoint => "Element not found: " ++ endpoint
  | anchorMissing view anchor => "View " ++ view ++ " references missing element: " ++ anchor
  | parentMissing element parent => "Element " ++ element ++ " has invalid parent: " ++ parent
  | selfReference _ => "Relationship cannot connect an element to itself"
  | groupAtEnd group _ => "Groups cannot take part in relationships: " ++ group
  | groupAsEndpoint group => "Groups cannot take part in relationships: " ++ group
  | anchorOfWrongKind view expected actual =>
    "View " ++ view ++ " must be anchored on a " ++ expected ++ ", not a " ++ actual
  | idIsFixed => "Element ids change only through rename_element"
  | nestedInItself => "An element cannot be nested inside itself"
  | lastView => "Cannot delete the last view of a workspace"
  | elementNotFound element => "Element not found: " ++ element
  | relationshipNotFound relationship => "Relationship not found: " ++ relationship
  | viewNotFound view => "View not found: " ++ view
  | noWorkspace => "No workspace open"
  | noFilePath => "No file path specified and no current file path"
  | fileNotFound path => "Workspace file not found: " ++ path
  | unsupportedFile shown => "Unsupported file type: " ++ shown
  | invalidFile path => "Invalid workspace JSON in " ++ path

def details : Fault → Option Json.Fields
  | unbalancedBraces opened closed | unbalancedCandidate opened closed =>
    some [("open", .nat opened), ("close", .nat closed)]
  | elementNameMissing element => some [("element_id", .str element)]
  | relationshipDescriptionMissing relationship | selfReference relationship | groupAtEnd _ relationship =>
    some [("relationship_id", .str relationship)]
  | _ => none

end Fault

def FaultClass.code : FaultClass → String
  | document => "DSL_ERROR"
  | candidate | missingField | unknownKind | danglingReference | selfReference | invalid => "VALIDATION_ERROR"
  | notFound => "NOT_FOUND"
  | file => "FILE_ERROR"

def Fault.code (f : Fault) : String := f.classOf.code

/-- The fault as a report shows it: code, message, and details if there are any. -/
def Fault.toJson (f : Fault) : Json :=
  .obj ([("code", .str f.code), ("message", .str f.message)] ++
    match f.details with
    | some fields => [("details", .obj fields)]
    | none => [])

/-! ## Data that does not fit its model -/

inductive Misfit where
  | missing
  | notText
  | notInVocabulary
  | notList
  | notObject
  /-- As `notObject`, in a request whose data may also be an object of the program. -/
  | notAttributes
  | notNumber
  | unreadableNumber
  | notTruth
  | unreadableTruth
  /-- A text with half a character, where a text has to be understood. -/
  | notWhole
  deriving DecidableEq, Repr

/-- A place, as field names and indices from the outside in, and what is wrong there. -/
structure Issue where
  place : List String
  misfit : Misfit
  deriving DecidableEq, Repr

def Misfit.code : Misfit → String
  | missing => "missing"
  | notText => "string_type"
  | notInVocabulary => "enum"
  | notList => "list_type"
  | notObject => "model_type"
  | notAttributes => "model_attributes_type"
  | notNumber => "float_type"
  | unreadableNumber => "float_parsing"
  | notTruth => "bool_type"
  | unreadableTruth => "bool_parsing"
  | notWhole => "string_unicode"

def Issue.toJson (i : Issue) : Json :=
  .obj [("loc", .str (".".intercalate i.place)), ("type", .str i.misfit.code)]

def issuesJson (issues : List Issue) : Json := .arr (issues.map Issue.toJson)

/-! ## Accidents -/

inductive FileTrouble where
  | missing
  | isDirectory
  | notDirectory
  | occupied
  | nameTooLong
  deriving DecidableEq, Repr

/-- The system's words for it. -/
def FileTrouble.message : FileTrouble → String
  | missing => "No such file or directory"
  | isDirectory => "Is a directory"
  | notDirectory => "Not a directory"
  | occupied => "File exists"
  | nameTooLong => "File name too long"

def FileTrouble.number : FileTrouble → Nat
  | missing => 2
  | occupied => 17
  | notDirectory => 20
  | isDirectory => 21
  | nameTooLong => 36

inductive Accident where
  /-- A word that the vocabulary asked for does not have. -/
  | unknownWord
  | undefinedNumber
  | infiniteNumber
  /-- An integer that is too large for a floating-point number, or a count that is. -/
  | tooLargeNumber
  /-- A text or an array for which there is no room. -/
  | tooLong
  /-- Half a character where UTF-8 is to be written. -/
  | halfCharacter
  /-- A number that JSON does not have, where JSON is to be sent. -/
  | unsendable
  /-- A text that is no address. -/
  | unaddressable
  /-- An address with a scheme that there is not. -/
  | unknownScheme
  /-- A field that a value does not have. -/
  | unknownField
  /-- An item that a value does not have. -/
  | tooFewItems
  /-- An address with a scheme that asks for more than an answer. -/
  | standingConnection
  | noColumns
  | wrongArguments
  /-- A value that is no object where its fields are asked for. -/
  | noFields
  | notIterable
  | notUnicode
  /-- A path with a null character. -/
  | nullInPath
  | fileTrouble (trouble : FileTrouble) (path : String)
  deriving DecidableEq, Repr

inductive Failure where
  | fault (f : Fault)
  | schema (issues : List Issue)
  | accident (a : Accident)
  deriving DecidableEq, Repr

instance : Coe Fault Failure := ⟨.fault⟩

instance : Coe Accident Failure := ⟨.accident⟩

end Blueprint
