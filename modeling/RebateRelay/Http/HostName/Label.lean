import RebateRelay.Http.HostName.PlainForm
import RebateRelay.Text.Bearing
import RebateRelay.Text.Canonical
import RebateRelay.Text.Joining
import RebateRelay.Text.Punycode

/-!
# Labels of host names

The points of a host name part it into labels. A label with characters beyond ASCII is sent in
ASCII letters behind a tag, and may also be given in that form. It has to be plain and canonical
either way, may not begin with a mark, and has joiners only where they do something. A name in
which some letter runs from right to left has labels that each keep to one direction.
-/

namespace RebateRelay.Http.HostName

open Text

/-- What stands before a label that is given in ASCII letters. -/
def tag : List Char := "xn--".toList

/-- The character is one of ASCII. -/
def isAscii (c : Char) : Bool := c.toNat < 0x80

/-- The joiner after some characters, which are listed from the last to the first, and before
others does something: it stands behind a sign that kills a vowel, or it is the one that keeps
letters apart, between two that would join. -/
def joinerFits (joiner : Char) (before after : List Char) : Bool :=
  match before with
  | [] => false
  | last :: _ =>
    combiningClass last == viramaClass ||
      (joiner.toNat == 0x200C &&
        (before.dropWhile isTransparent).head?.any joinsForward &&
        (after.dropWhile isTransparent).head?.any joinsBackward)

/-- Every joiner in a text does something. The characters before the text are listed from the last
to the first. -/
def joinersFit (before : List Char) : List Char → Bool
  | [] => true
  | c :: cs => (!isJoiner c || joinerFits c before cs) && joinersFit (c :: before) cs

/-- A label that may stand in a name. -/
def isSound (label : List Char) : Bool :=
  label.all isAscii || (!label.head?.any isMark && joinersFit [] label)

/-- Reads a label: the characters that it stands for. -/
def readLabel? (label : List Char) : Option (List Char) :=
  if tag.isPrefixOf label then do
    let inner ← Punycode.decode? (label.drop tag.length)
    if inner.all isAscii || !inner.all isPlain || canonical inner != inner || !isSound inner ||
        tag.isPrefixOf inner then none
    else some inner
  else if isSound label then some label
  else none

/-- The ASCII form of a label. -/
def labelText (label : List Char) : List Char :=
  if label.all isAscii then label else tag ++ Punycode.encode label

/-- The bearings that make a name one with letters from right to left. -/
def turns (b : Bearing) : Bool := b == .leftward || b == .arabicNumber

/-- A label that keeps to one direction: it begins with a letter, has no letter of the other
direction, and ends with a letter or a digit and the marks behind it. A label that runs from right
to left has digits of one kind only. -/
def keepsDirection (label : List Char) : Bool :=
  let bearings := label.map bearing
  let last := (bearings.reverse.dropWhile (· == .mark)).head?
  match bearings.head? with
  | none => true
  | some .rightward =>
    !bearings.any turns && (last == some .rightward || last == some .europeanNumber)
  | some .leftward =>
    !bearings.contains .rightward &&
      (last == some .leftward || last == some .europeanNumber || last == some .arabicNumber) &&
      !(bearings.contains .europeanNumber && bearings.contains .arabicNumber)
  | some _ => false

/-- A name whose labels go together: where letters run from right to left, each label keeps to one
direction. -/
def goTogether (labels : List (List Char)) : Bool :=
  !labels.any (fun label => label.any fun c => turns (bearing c)) || labels.all keepsDirection

end RebateRelay.Http.HostName
