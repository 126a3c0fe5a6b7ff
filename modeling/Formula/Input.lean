import Formula.Yaml.Assembly
import Formula.Bindings

/-!
Values of variables from outside: assignments like `name=value`, and files that hold a mapping of
names to values. Texts are read as decimal numbers, exactly; other data become numbers where they
can.
-/

set_option autoImplicit false

namespace Formula

open Formula.Text

/-- Why a file can not be read, with the number that the operating system has for that. Most faults
are reported with the path. -/
structure FileFault where
  number : Nat
  reason : String
  namesPath : Bool := true
  deriving DecidableEq, Repr

inductive FileContent where
  | unreadable (fault : FileFault)
  | bytes (content : ByteArray)

namespace FileContent

def missing : FileContent := .unreadable { number := 2, reason := "No such file or directory" }

def insideFile : FileContent := .unreadable { number := 20, reason := "Not a directory" }

def directory : FileContent := .unreadable { number := 21, reason := "Is a directory" }

def nameTooLong : FileContent := .unreadable { number := 36, reason := "File name too long" }

end FileContent

inductive InputError where
  | notNumber (name : String) (shown : String)
  | notFinite (name : String) (shown : String)
  | noAssignment (text : String)
  | unreadableFile (fault : FileFault) (path : String)
  | malformedFile (path : String)
  | noMapping
  deriving DecidableEq, Repr

def InputError.message : InputError → String
  | notNumber name shown => "Value for " ++ name ++ " is not a number: " ++ shown
  | notFinite name shown => "Value for " ++ name ++ " must be finite: " ++ shown
  | noAssignment text => "Expected NAME=VALUE, got " ++ quote text
  | unreadableFile fault path =>
    "Cannot read file: [Errno " ++ toString fault.number ++ "] " ++ fault.reason
      ++ (if fault.namesPath then ": " ++ quote path else "")
  | malformedFile path => "Invalid YAML in " ++ path
  | noMapping => "Top-level YAML value must be a mapping"

/-- Why a file can not be loaded: for a reason of the above, because its path or its bytes are no
text, or because of something inside it. -/
inductive LoadError where
  | input (error : InputError)
  | pathWithNul
  | undecodable
  | content (error : Yaml.ReadError)
  deriving DecidableEq, Repr

def LoadError.message : LoadError → String
  | input error => error.message
  | pathWithNul => "embedded null byte"
  | undecodable => ""
  | content error => error.message

def readValueOf (name : String) (d : Datum) : Except InputError Decimal :=
  match d with
  | .text text =>
    match Decimal.ofText? text with
    | none => .error (.notNumber name d.shown)
    | some value => if value.isFinite then .ok value else .error (.notFinite name d.shown)
  | _ =>
    match d.toDecimal with
    | .ok value => .ok value
    | .error _ => .error (.notNumber name d.shown)

def readValue (name : String) (d : Datum) : Except InputError Decimal := readValueOf (quote name) d

/-- Reads an assignment; the first equals sign ends the name, which must not be blank. -/
def readAssignment (text : String) : Except InputError (String × Decimal) :=
  let chars := text.toList
  let name := trim (chars.takeWhile (· ≠ '='))
  match chars.dropWhile (· ≠ '=') with
  | '=' :: value =>
    if name.isEmpty then .error (.noAssignment text)
    else (readValue (String.ofList name) (.text (String.ofList value))).map
      fun number => (String.ofList name, number)
  | _ => .error (.noAssignment text)

def unifyLineEnds : List Char → List Char
  | [] => []
  | '\r' :: '\n' :: rest => '\n' :: unifyLineEnds rest
  | c :: rest => (if c = '\r' then '\n' else c) :: unifyLineEnds rest

def readShown (name : String) (d : Datum) : Except LoadError Decimal :=
  match readValueOf name d with
  | .ok value => .ok value
  | .error error =>
    if d.isShowable then .error (.input error) else .error (.content (.longInteger none))

def readEntries (store : Yaml.Store) :
    List (Yaml.Place × Yaml.Place) → Except LoadError (List (String × Decimal))
  | [] => .ok []
  | (keyPlace, valuePlace) :: rest => do
    let key := store.datum keyPlace
    if !key.isShowable then .error (.content (.longInteger none))
    let number ← readShown key.quotedPlain (store.datum valuePlace)
    return (key.plain, number) :: (← readEntries store rest)

/-- The bindings that a text holds, for any reader of its data. -/
def readBindingsWith (reader : Yaml.TextReader) (path : String) (text : List Char) :
    Except LoadError Bindings :=
  match reader (unifyLineEnds text) with
  | .error .malformed => .error (.input (.malformedFile path))
  | .error error => .error (.content error)
  | .ok { store, root } =>
    match store.entries? root, store.cell root with
    | some entries, _ => (readEntries store entries).map Bindings.ofList
    | none, .scalar .absent => .ok {}
    | none, _ => .error (.input .noMapping)

def normalizePath (path : String) : String :=
  let parts := (splitAt '/' path.toList).filter fun part => !part.isEmpty && part != ['.']
  let root := if path.toList.head? = some '/' then "/" else ""
  if parts.isEmpty && root.isEmpty then "."
  else root ++ "/".intercalate (parts.map String.ofList)

/-- Whether no file can have a path, because a null character is in it. -/
def hasNul (path : String) : Bool := path.toList.contains '\x00'

def loadBindingsWith (reader : Yaml.TextReader) (path : String) (content : FileContent) :
    Except LoadError Bindings :=
  if hasNul path then .error .pathWithNul
  else match content with
  | .unreadable fault => .error (.input (.unreadableFile fault (normalizePath path)))
  | .bytes content =>
    match String.fromUTF8? content with
    | some text => readBindingsWith reader (normalizePath path) text.toList
    | none => .error .undecodable

def loadBindings : String → FileContent → Except LoadError Bindings := loadBindingsWith Yaml.read

end Formula
