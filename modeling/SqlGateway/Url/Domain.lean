import SqlGateway.Url.Domain.Direction
import SqlGateway.Url.Domain.Joining
import SqlGateway.Url.Domain.Mapping
import SqlGateway.Url.Domain.Punycode

/-!
# Domain names

A domain name is a list of labels with points between. It may be written with characters of all
scripts, or a label may be written in ASCII behind the mark `xn--`. `labels?` gives the labels as
they are meant, unless a rule for names is broken.
-/

namespace SqlGateway.Url.Domain

/-- What may not stand in a name: blanks, controls, and what has a meaning of its own in a URL. -/
def isForbidden (character : Char) : Bool :=
  character.toNat ≤ 32 || character.toNat = 127 ||
    ['%', '#', '/', ':', '<', '>', '?', '@', '[', '\\', ']', '^', '|'].contains character

def isAscii (text : List Char) : Bool := text.all (·.toNat < 128)

def encodedMark : List Char := "xn--".toList

def encodedLimit : Nat := 2000

def labelLimit : Nat := 1000

/-- The label that is meant by one with the mark: it has to need the mark, and to be written as a
name is read. -/
def decoded? (text : List Char) : Option (List Char) := do
  if !isAscii text || encodedLimit < text.length then none
  else
    let label ← Punycode.decode? text
    if isAscii label || encodedMark.isPrefixOf label || read? label ≠ some label then none
    else some label

def label? (text : List Char) : Option (List Char) :=
  if encodedMark.isPrefixOf text then decoded? (text.drop encodedMark.length) else some text

/-- Whether a label keeps the rules for its characters: it does not begin with a mark, and joiners
stand where they may. -/
def isSound (label : List Char) : Bool :=
  isAscii label || (label.length ≤ labelLimit && !(label.head?.any Text.isMark) &&
    joinersFit [] label)

def labels? (name : List Char) : Option (List (List Char)) := do
  let text ← read? name
  if text.any isForbidden then none
  else
    let labels ← (Text.pieces '.' text).mapM label?
    if labels.all isSound && keepDirections labels then some labels else none

end SqlGateway.Url.Domain
