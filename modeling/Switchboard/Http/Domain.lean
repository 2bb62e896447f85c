import Switchboard.Http.Domain.Folding
import Switchboard.Http.Domain.Punycode
import Switchboard.Unicode.Direction
import Switchboard.Unicode.Joining

/-!
Names of hosts. A name is labels with points between them. It is brought to the form that counts,
and a label that is not plain then gets a written form in plain characters, which begins with
`xn--`. A label may be given in its written form from the start; the text it stands for has to be
one that counts.
-/
namespace Switchboard.Http.Domain

open Unicode (composed isMark isOrderly isRightward joinersFit)

def mark : List Char := ['x', 'n', '-', '-']

/-- The longest text that is given a written form, and the longest written form that is read. -/
def textLimit : Nat := 1000

def writtenLimit : Nat := 2000

def isForbidden (c : Char) : Bool :=
  c.toNat ≤ 32 || c.toNat == 127
    || ['#', '/', ':', '<', '>', '?', '@', '[', '\\', ']', '^', '|', '%'].contains c

def isPlainText (cs : List Char) : Bool := cs.all Punycode.isPlain

def ofWritten? (written : List Char) : Option (List Char) :=
  if !isPlainText written || writtenLimit < written.length then none
  else
    (Punycode.decode? written).filter fun label =>
      !isPlainText label && label.all isFolded && composed label == label

def label? (folded : List Char) : Option (List Char) :=
  if mark.isPrefixOf folded then ofWritten? (folded.drop mark.length) else some folded

def isLabel (label : List Char) : Bool :=
  !label.any isForbidden && !(label.head?.map isMark).getD false && joinersFit [] label

def areOrderly (labels : List (List Char)) : Bool :=
  !labels.any isRightward || labels.all isOrderly

def written? (label : List Char) : Option (List Char) :=
  if isPlainText label then some label
  else if textLimit < label.length then none
  else some (mark ++ Punycode.encode label)

def labels? (name : List Char) : Option (List (List Char)) := do
  let folded ← name.mapM fold?
  let labels ← (splitOn '.' (composed folded.flatten)).mapM label?
  if labels.all isLabel && areOrderly labels then pure labels else none

def plain? (name : List Char) : Option (List Char) := do
  pure (['.'].intercalate (← (← labels? name).mapM written?))

end Switchboard.Http.Domain
