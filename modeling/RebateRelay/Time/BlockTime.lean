import RebateRelay.Text.Quoted
import RebateRelay.Time.Layout

/-!
# Block times

The analytics service stamps a row with a date, a time of day and the abbreviation of a zone, as in
`2024-02-01 13:45:10.000 UTC`. The abbreviation has to be there and to consist of letters, but says
nothing: the service reports universal time.
-/

namespace RebateRelay.BlockTime

/-- Why a text is not a block time. -/
inductive Fault where
  /-- No space separates a zone. -/
  | noZone
  /-- The zone is empty or has a character that is no letter. -/
  | badZone
  /-- The stamp does not follow its layout. -/
  | badStamp (fault : Layout.Fault)
  deriving DecidableEq, Repr

/-- The wording of a fault, with the text it was found in. -/
def Fault.message (text : String) : Fault → String
  | .noZone => "block time " ++ Text.quote text ++ " has no zone"
  | .badZone => "block time " ++ Text.quote text ++ " has an invalid zone"
  | .badStamp fault => "block time " ++ Text.quote text ++ ": " ++ fault.message

/-- Splits a text at its last space. -/
def splitAtLastSpace? (cs : List Char) : Option (List Char × List Char) :=
  let backwards := cs.reverse
  match backwards.dropWhile (· != ' ') with
  | [] => none
  | _ :: stamp => some (stamp.reverse, (backwards.takeWhile (· != ' ')).reverse)

/-- The character is one of the 52 unaccented letters. -/
def isLetter (c : Char) : Bool := c.isAlpha

/-- Reads a block time, with blanks around it allowed. -/
def parse (text : String) : Except Fault Timestamp :=
  match splitAtLastSpace? (Text.trimChars text.toList) with
  | none => .error .noZone
  | some (stamp, zone) =>
    if zone.isEmpty || !zone.all isLetter then .error .badZone
    else match Layout.run Layout.dateTime stamp with
      | .error fault => .error (.badStamp fault)
      | .ok fields =>
        match fields.timestamp? 0 with
        | some t => .ok t
        | none => .error (.badStamp .outOfRange)

end RebateRelay.BlockTime
