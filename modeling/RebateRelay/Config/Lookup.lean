import RebateRelay.Error
import RebateRelay.Number.FloatText
import RebateRelay.Number.Unsigned
import RebateRelay.Text.Blank

/-!
# Looking settings up

A setting is a text under a key; blanks around it do not count and a blank one is as good as none.
A required setting has to be there. Of settings that have to be read further, the lenient ones fall
back to a default when they cannot be read, and the strict ones are an error.
-/

namespace RebateRelay

/-- The texts of all settings, by key. -/
abbrev Lookup := String → Option String

namespace Lookup

/-- The text of a setting, if there is one. -/
def text? (env : Lookup) (key : String) : Option String :=
  ((env key).map Text.trim).filter fun value => value != ""

/-- The text of a setting, or a default. -/
def textOr (env : Lookup) (key default : String) : String := (env.text? key).getD default

/-- The text of a setting that has to be there. -/
def required (env : Lookup) (key : String) : Except ConfigError String :=
  match env.text? key with
  | some value => .ok value
  | none => .error (.missing key)

variable {α : Type}

/-- A setting that falls back to a default when it is absent or cannot be read. -/
def lenient (env : Lookup) (read : String → Except String α) (key : String) (default : α) : α :=
  ((env.text? key).bind fun value => (read value).toOption).getD default

/-- A setting that falls back to a default only when it is absent. -/
def strict (env : Lookup) (read : String → Except String α) (key : String) (default : α) :
    Except ConfigError α :=
  match env.text? key with
  | none => .ok default
  | some value =>
    match read value with
    | .ok a => .ok a
    | .error reason => .error (.invalid key (Text.quote value ++ ": " ++ reason))

/-- Reads a whole number of 64 bits. -/
def word (value : String) : Except String UInt64 :=
  (Number.readUInt64 value).mapError Number.UnsignedFault.message

/-- Reads a whole number of 32 bits. -/
def halfWord (value : String) : Except String UInt32 :=
  (Number.readUInt32 value).mapError Number.UnsignedFault.message

/-- Reads a double. -/
def double (value : String) : Except String Float :=
  match Number.readFloat? value with
  | some x => .ok x
  | none => .error "invalid float literal"

/-- A setting that is on or off, in words or digits and in any case. Anything else is off. -/
def flag (env : Lookup) (key : String) : Bool :=
  match env.text? key with
  | some value =>
    let lower := String.ofList (value.toList.map Char.toLower)
    lower == "true" || lower == "1"
  | none => false

end Lookup

end RebateRelay
