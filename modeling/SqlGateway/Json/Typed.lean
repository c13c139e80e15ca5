import SqlGateway.Json.Decode
import SqlGateway.Json.Skip

/-!
# Reading typed values straight from a text

A `Form` reads what a type expects from the text as it goes, so a text is refused at the first
place where it stops to be a value of the type, whatever comes behind. A value of another kind is
refused behind it if it is plain, and in front of its bracket if it is a container. A fault of a
container as a whole, such as a missing field, is told behind the container.
-/

namespace SqlGateway.Json.Typed

open Reader (Step skipSpace stopAhead)

/-! ## Faults -/

inductive Fault where
  | unreadable (cause : ReadCause)
  | misfit (error : DecodeError)
deriving DecidableEq, Repr

def Fault.message : Fault → String
  | .unreadable cause => cause.message
  | .misfit error => error.message

/-- A fault in front of a rest of the text, or some bytes further. A fault that is not settled goes
on to the end of the next container around it. -/
structure Refusal where
  fault : Fault
  rest : List Char
  bytes : Nat
  settled : Bool
deriving DecidableEq, Repr

/-- The refusal settled, at a place that `leave` gives if it was not settled before. -/
def Refusal.settle (refusal : Refusal) (leave : List Char → List Char) : Refusal :=
  if refusal.settled then refusal else ⟨refusal.fault, leave refusal.rest, 0, true⟩

def Refusal.message (refusal : Refusal) (whole : List Char) : String :=
  (Position.ofRest whole refusal.rest refusal.bytes).describe refusal.fault.message

/-- A result or a refusal. Where a text is read, the result comes with the rest of the text. -/
abbrev Reading := Except Refusal

def ofStep {α : Type} (step : Step α) : Reading (α × List Char) :=
  step.mapError fun stop => ⟨.unreadable stop.cause, stop.rest, stop.bytes, true⟩

def misfit {α : Type} (error : DecodeError) (rest : List Char) : Reading (α × List Char) :=
  .error ⟨.misfit error, rest, 0, true⟩

def unsettled {α : Type} (error : DecodeError) (rest : List Char) : Reading (α × List Char) :=
  .error ⟨.misfit error, rest, 0, false⟩

/-- Reads a value of a type: takes how many containers may still be opened, less one, and the
text. -/
abbrev Form (α : Type) := Nat → List Char → Reading (α × List Char)

/-! ## Plain values -/

def refuse {α : Type} (expected : String) (text : List Char) : Reading (α × List Char) :=
  match skipSpace text with
  | '[' :: rest => misfit (.invalidType (.array []) expected) ('[' :: rest)
  | '\x7b' :: rest => misfit (.invalidType (.object []) expected) ('\x7b' :: rest)
  | other => do
    let (found, rest) ← ofStep (Reader.value .kept Reader.depthLimit other)
    misfit (.invalidType found expected) rest

def value : Form Value := fun depth text => ofStep (Reader.value .replaced depth text)

def text (expected : String) : Form String := fun _ text =>
  match skipSpace text with
  | '"' :: rest => ofStep (Reader.string rest)
  | other => refuse expected other

def string : Form Value := fun depth rest => do
  let (found, rest) ← text "a string" depth rest
  return (.string found, rest)

def optional (form : Form Value) : Form Value := fun depth text =>
  match skipSpace text with
  | 'n' :: rest => ofStep (Reader.keyword .null ['u', 'l', 'l'] rest)
  | other => form depth other

def object : Form Value := fun depth text =>
  match skipSpace text with
  | '\x7b' :: rest => value depth ('\x7b' :: rest)
  | other => refuse "a map" other

/-! ## Containers -/

def enter {α : Type} (depth : Nat) (text : List Char) (inner : Form α) : Reading (α × List Char) :=
  match depth with
  | 0 | 1 => ofStep (stopAhead .tooDeep text)
  | depth + 1 => inner depth (text.drop 1)

def leaveList (text : List Char) : List Char :=
  match skipSpace text with
  | ']' :: rest => rest
  | ',' :: rest => skipSpace rest
  | other => other

def closeList (text : List Char) : Step Unit :=
  match skipSpace text with
  | [] => stopAhead .endInList []
  | ']' :: rest => .ok ((), rest)
  | ',' :: rest =>
    match skipSpace rest with
    | ']' :: rest => stopAhead .trailingComma (']' :: rest)
    | other => stopAhead .trailingText other
  | other => stopAhead .trailingText other

def inList {α : Type} (inner : Form α) : Form α := fun depth text =>
  match inner depth text with
  | .error refusal => .error (refusal.settle leaveList)
  | .ok (result, rest) => do
    let (_, rest) ← ofStep (closeList rest)
    return (result, rest)

def leaveObject (text : List Char) : List Char :=
  match skipSpace text with
  | '\x7d' :: rest => rest
  | other => other

def inObject {α : Type} (inner : Form α) : Form α := fun depth text =>
  match inner depth text with
  | .error refusal => .error (refusal.settle leaveObject)
  | .ok (result, rest) => .ok (result, leaveObject rest)

def itemsFrom {α : Type} (form : Form α) (depth : Nat) :
    Nat → Bool → List α → List Char → Reading (List α × List Char)
  | 0, _, _, text => ofStep (stopAhead .endInList text)
  | fuel + 1, first, found, text => do
    let (more, rest) ← ofStep (Reader.nextItem first text)
    if more then
      let (item, rest) ← form depth rest
      itemsFrom form depth fuel false (item :: found) rest
    else return (found.reverse, rest)

def list {α : Type} (form : Form α) : Form (List α) := fun depth text =>
  match skipSpace text with
  | '[' :: rest =>
    enter depth ('[' :: rest) <| inList fun depth text =>
      itemsFrom form depth (text.length + 1) true [] text
  | other => refuse "a sequence" other

def membersFrom {σ : Type} (member : σ → String → List Char → Reading (σ × List Char)) :
    Nat → Bool → σ → List Char → Reading (σ × List Char)
  | 0, _, _, text => ofStep (stopAhead .endInObject text)
  | fuel + 1, first, state, text => do
    let (name?, rest) ← ofStep (Reader.nextName first text)
    match name? with
    | none => return (state, rest)
    | some name =>
      let (state, rest) ← member state name rest
      membersFrom member fuel false state rest

def behindColon {α : Type} (form : Form α) : Form α := fun depth text => do
  let (_, rest) ← ofStep (Reader.colon text)
  form depth rest

/-! ## Records -/

abbrev FieldForms := List (String × Form Value)

/-- One member of a record: a known one is read by its form and may come only once; any other is
passed over. -/
def field (forms : FieldForms) (depth : Nat) (found : List (String × Value)) (name : String)
    (text : List Char) : Reading (List (String × Value) × List Char) :=
  match Entries.lookup name forms with
  | none => behindColon (fun _ text => do
      let (_, rest) ← ofStep (Reader.skip text)
      return (found, rest)) depth text
  | some form =>
    if (Entries.lookup name found).isSome then unsettled (.duplicateField name) text
    else do
      let (item, rest) ← behindColon form depth text
      return (found ++ [(name, item)], rest)

def positions (depth : Nat) :
    Bool → List Value → List (Form Value) → List Char → Reading (List Value × List Char)
  | _, found, [], text => .ok (found.reverse, text)
  | first, found, form :: forms, text => do
    let (more, rest) ← ofStep (Reader.nextItem first text)
    if more then
      let (item, rest) ← form depth rest
      positions depth false (item :: found) forms rest
    else return (found.reverse, rest)

def record {α : Type} (typeName : String) (forms : FieldForms)
    (build : Fields → Except DecodeError α) : Form α := fun depth text =>
  let built (fields : Fields) (rest : List Char) : Reading (α × List Char) :=
    match build fields with
    | .ok result => .ok (result, rest)
    | .error error => unsettled error rest
  match skipSpace text with
  | '[' :: rest =>
    enter depth ('[' :: rest) <| inList fun depth text => do
      let (found, rest) ← positions depth true [] (forms.map Prod.snd) text
      built (.listed found ("struct " ++ typeName ++ " with " ++ elements forms.length)) rest
  | '\x7b' :: rest =>
    enter depth ('\x7b' :: rest) <| inObject fun depth text => do
      let (found, rest) ← membersFrom (field forms depth) (text.length + 1) true [] text
      built (.named found) rest
  | other => refuse ("struct " ++ typeName) other

/-! ## Tagged values -/

/-- A tag and what stands beside it: members by name, or items by position. -/
inductive Tagged where
  | named (tag : String) (members : List (String × Value))
  | listed (tag : String) (items : List Value)
deriving DecidableEq

def besideTag (tagName : String) (tag : Form String) (depth : Nat)
    (found : Option String × List (String × Value)) (name : String) (text : List Char) :
    Reading ((Option String × List (String × Value)) × List Char) :=
  if name = tagName then
    if found.1.isSome then unsettled (.duplicateField name) text
    else do
      let (tag, rest) ← behindColon tag depth text
      return ((some tag, found.2), rest)
  else do
    let (item, rest) ←
      behindColon (fun depth text => ofStep (Reader.value .kept depth text)) depth text
    return ((found.1, found.2 ++ [(name, item)]), rest)

def tagged (tagName expected : String) (tag : Form String) : Form Tagged := fun depth text =>
  match skipSpace text with
  | '[' :: rest =>
    enter depth ('[' :: rest) <| inList fun depth text => do
      let (more, rest) ← ofStep (Reader.nextItem true text)
      if more then
        let (tag, rest) ← tag depth rest
        let (items, rest) ← itemsFrom (fun depth text => ofStep (Reader.value .kept depth text))
          depth (rest.length + 1) false [] rest
        return (.listed tag items, rest)
      else unsettled (.missingField tagName) rest
  | '\x7b' :: rest =>
    enter depth ('\x7b' :: rest) <| inObject fun depth text => do
      let ((tag?, members), rest) ←
        membersFrom (besideTag tagName tag depth) (text.length + 1) true (none, []) text
      match tag? with
      | none => unsettled (.missingField tagName) rest
      | some tag => return (.named tag members, rest)
  | other => refuse expected other

/-! ## Whole texts -/

/-- The one value of a type that a whole text consists of, or the message that refuses it. -/
def document {α : Type} (form : Form α) (whole : String) : Except String α :=
  let reading : Reading (α × List Char) := do
    let (result, rest) ← form Reader.depthLimit whole.toList
    let (_, rest) ← ofStep (Reader.ending rest)
    return (result, rest)
  match reading with
  | .ok (result, _) => .ok result
  | .error refusal => .error (refusal.message whole.toList)

end SqlGateway.Json.Typed
