import SqlGateway.Failure
import SqlGateway.Text.Alphanumeric
import SqlGateway.Text.Fold
import SqlGateway.Text.Ranges

/-!
# Fragments that enter SQL text

Names cannot be bound as parameters; they pass an allow-list and are then quoted. Data types and
default expressions cannot be quoted either: a data type consists of listed characters only, and a
default expression may hold neither a statement separator nor a comment mark nor a control
character.
-/

namespace SqlGateway.Sql

def nameLimit : Nat := 128

def isNameChar (character : Char) : Bool :=
  Text.isAlphanumeric character || [' ', '_', '$', '#', '@', '-'].contains character

def checkName (name : String) : Except Failure Unit :=
  if name = "" then .error (.input .emptyIdentifier)
  else if nameLimit < name.toList.length then .error (.input (.longIdentifier name nameLimit))
  else
    match name.toList.find? fun character => !isNameChar character with
    | some character => .error (.input (.identifierCharacter name character))
    | none => .ok ()

def checkNames (names : List String) : Except Failure Unit := names.forM checkName

def checkName? : Option String → Except Failure Unit
  | none => .ok ()
  | some name => checkName name

def isTypeChar (character : Char) : Bool :=
  character.isAlphanum || [' ', '_', '(', ')', ',', '[', ']', '.'].contains character

/-- Refuses a text that cannot be a data type. Blanks at its ends are not looked at. -/
def checkType (dataType : String) : Except Failure Unit :=
  match Text.trimChars dataType.toList with
  | [] => .error (.input .emptyType)
  | first :: rest =>
    match (first :: rest).find? fun character => !isTypeChar character with
    | some character => .error (.input (.typeCharacter dataType character))
    | none => .ok ()

def defaultSequences : List String := [";", "--", "/*", "*/"]

def checkDefault (expression : String) : Except Failure Unit :=
  if Text.trimChars expression.toList = [] then .error (.input .emptyDefault)
  else
    match defaultSequences.find? fun sequence => Text.occurs sequence expression with
    | some sequence => .error (.input (.defaultSequence sequence))
    | none =>
      if expression.toList.any Text.isControl then .error (.input .defaultControl) else .ok ()

theorem checkName_eq_ok_iff (name : String) :
    checkName name = .ok () ↔
      name ≠ "" ∧ name.toList.length ≤ nameLimit ∧
        ∀ character ∈ name.toList, isNameChar character = true := by
  unfold checkName
  split
  · simp_all
  · split
    · rename_i long
      simp only [reduceCtorEq, false_iff]
      rintro ⟨_, short, _⟩
      omega
    · split
      · rename_i character found
        have bad := List.find?_some found
        have member := List.mem_of_find?_eq_some found
        simp only [reduceCtorEq, false_iff]
        rintro ⟨_, _, all⟩
        simp [all character member] at bad
      · rename_i nonempty short _ none
        simp only [List.find?_eq_none, Bool.not_eq_true', Bool.not_eq_false] at none
        simp only [true_iff]
        exact ⟨nonempty, by omega, none⟩

end SqlGateway.Sql
