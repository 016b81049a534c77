import StaticAtoms.Log.Event
import StaticAtoms.Log.Number
import StaticAtoms.Log.Pattern.Expression
import StaticAtoms.Text.Utf8

/-!
# Directives of log filters

A directive has the form `target[span{field=value}]=level`, from which parts may be missing.  It shows
the events of the sources whose names begin with the target, up to the level; a level alone applies to
all sources, and a directive without a level shows everything.

* `Directive.ofText?` reads a directive.
* `Directive.applies` says which events it is about.  A span, and the value of a field, are
  conditions that no event here meets, but they have to be well formed.
-/

namespace StaticAtoms.Log

/-- A field that a directive asks for, and its value if that matters. -/
structure FieldCondition where
  name : String
  value : Option String
deriving DecidableEq

/-- The most detailed level that is shown of the events that meet all conditions; none is shown when
there is no level. -/
structure Directive where
  target : Option String
  span : Option String
  field : Option FieldCondition
  level : Option Level
deriving DecidableEq

/-! ## Parts

The form of a directive is found in its text without the blanks around it.  Its parts are then cut
out of the text with these blanks, at the same distances from its beginning, so that leading blanks
move every part and blanks at the end belong to the last one. -/

namespace Directive

/-- The number of bytes of characters. -/
def size (s : List Char) : Nat :=
  (Text.utf8 (String.ofList s)).length

/-- A number of bytes from an offset on, if they are characters. -/
def cut (text : String) (offset length : Nat) : Option String :=
  Text.ofUtf8? (((Text.utf8 text).drop offset).take length)

/-- All bytes from an offset on, if they are characters. -/
def cutRest (text : String) (offset : Nat) : Option String :=
  Text.ofUtf8? ((Text.utf8 text).drop offset)

/-! ## Reading -/

/-- Whether a target may begin with a character: letters, numerals, `-`, `:` and `_`. -/
def isStart (c : Char) : Bool :=
  Text.isAlphanumeric c || c = '-' || c = ':' || c = '_'

/-- Splits the characters in front of the first one that ends a part off. -/
def splitAt (ends : List Char) (s : List Char) : List Char × List Char :=
  (s.takeWhile fun c => !ends.contains c, s.dropWhile fun c => !ends.contains c)

/-- A directive that is a level, or else a target. -/
def ofWord (word : String) : Directive :=
  match Level.ofText? word.toList with
  | some level => ⟨none, none, none, level⟩
  | none => ⟨some word, none, none, some .trace⟩

/-- Reads the level of a directive, which stands at an offset of the text behind an equals sign. -/
def readLevel (directive : Directive) (text : String) (offset : Nat) :
    List Char → Option Directive
  | [] => some directive
  | '=' :: _ =>
      match cutRest text (offset + 1) with
      | none => none
      | some "" => some directive
      | some word => (Level.ofText? word.toList).map fun level => { directive with level }
  | _ => none

/-- Whether a directive may ask for a value: for a number, or for what matches an expression. -/
def isValue (text : List Char) : Bool :=
  Number.accepts text || Pattern.Expression.accepts text

/-- Reads a field.  What follows a second equals sign is ignored. -/
def readField (text : String) : Option FieldCondition :=
  let (name, rest) := splitAt ['='] text.toList
  match rest with
  | [] => if name.isEmpty then none else some ⟨String.ofList name, none⟩
  | _ :: rest =>
      let value := (splitAt ['='] rest).1
      if isValue value then some ⟨String.ofList name, some (String.ofList value)⟩ else none

/-- Reads the field of a directive, which stands at an offset of the text behind a brace, and what
follows. -/
def readFieldAt (directive : Directive) (text : String) (offset : Nat) (s : List Char) :
    Option Directive :=
  let (inside, rest) := splitAt ['\x7d'] s
  match rest with
  | '\x7d' :: ']' :: rest =>
      match (cut text offset (size inside)).bind readField with
      | none => none
      | some field =>
          { directive with field := some field }.readLevel text (offset + size inside + 2) rest
  | _ => none

/-- Reads the conditions of a directive, which stand at an offset of the text behind a bracket, and
what follows. -/
def readConditions (directive : Directive) (text : String) (offset : Nat) (s : List Char) :
    Option Directive :=
  let (inside, rest) := splitAt [']', '\x7b'] s
  let behind := offset + size inside + 1
  match rest, cut text offset (size inside) with
  | ']' :: rest, some span => { directive with span := some span }.readLevel text behind rest
  | '\x7b' :: rest, some "" => directive.readFieldAt text behind rest
  | '\x7b' :: rest, some span => { directive with span := some span }.readFieldAt text behind rest
  | _, _ => none

/-- Reads a directive. -/
def ofText? (text : String) : Option Directive :=
  match Text.trim text.toList with
  | [] => none
  | '[' :: rest => readConditions ⟨none, none, none, some .trace⟩ text 1 rest
  | first :: rest =>
      if !isStart first then none
      else
        let (word, behind) := splitAt ['=', '['] (first :: rest)
        let directive (target : String) : Directive := ⟨some target, none, none, some .trace⟩
        match behind, cut text 0 (size word) with
        | [], _ => some (ofWord text)
        | '[' :: rest, some target => (directive target).readConditions text (size word + 1) rest
        | rest, some target => (directive target).readLevel text (size word) rest
        | _, none => none

/-! ## Applying -/

/-- Whether events can have a field, whatever its value. -/
def FieldCondition.holds (condition : FieldCondition) : Bool :=
  condition.value.isNone && Event.fields.contains condition.name

/-- Whether the name of a source begins with the target. -/
def covers (directive : Directive) (source : Source) : Bool :=
  directive.target.all fun target => target.toList.isPrefixOf source.target.toList

/-- Whether a directive is about the events of a source.  No event happens in a span. -/
def applies (directive : Directive) (source : Source) : Bool :=
  directive.span.isNone && directive.field.all FieldCondition.holds && directive.covers source

/-- The length of a target in bytes; a directive without a target comes before all others. -/
def targetSize (directive : Directive) : Nat :=
  match directive.target with
  | none => 0
  | some target => 1 + size target.toList

/-- The number of fields that a directive asks for. -/
def fieldCount (directive : Directive) : Nat :=
  directive.field.toList.length

/-- Whether a directive is more special than another one: by its target, and then by its field. -/
def isMoreSpecial (left right : Directive) : Bool :=
  right.targetSize < left.targetSize
    || left.targetSize = right.targetSize && right.fieldCount < left.fieldCount

end Directive

end StaticAtoms.Log
